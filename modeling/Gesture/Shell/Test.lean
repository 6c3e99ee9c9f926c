import Gesture.Shell.Number
import Gesture.Shell.Tree

namespace Gesture.Shell.Test

inductive Operator where
  | unary (letter : Char)
  | binary (name : String)
  | not
  | and
  | or
  | open
  | close
  deriving DecidableEq, Repr

def binaryNames : List String :=
  ["=", "!=", "<", ">", "-eq", "-ne", "-lt", "-le", "-gt", "-ge", "-nt", "-ot", "-ef"]

def Operator.ofText? (text : Bytes) : Option Operator :=
  match text with
  | ['!'] => some .not
  | ['('] => some .open
  | [')'] => some .close
  | ['-', 'a'] => some .and
  | ['-', 'o'] => some .or
  | _ =>
    if binaryNames.contains (String.ofList text) then some (.binary (String.ofList text))
    else
      match text with
      | ['-', letter] =>
        if "rwxefdcbpugkstznhOGLS".toList.contains letter then some (.unary letter) else none
      | _ => none

def isBinary (text : Bytes) : Bool :=
  match Operator.ofText? text with
  | some (.binary _) => true
  | _ => false

structure Facts where
  tree : Tree
  working : Place

/-- The file at a path. Where links are followed, the standard streams are something without
    being files. -/
def Facts.item? (f : Facts) (path : Bytes) (follow : Bool) : Option Item :=
  if follow && ["/dev/stdin", "/dev/stdout", "/dev/stderr"].contains (String.ofList path) then
    some ⟨.device .null, 0o666, 0⟩
  else (f.tree.lookItem f.working path follow).toOption

def fileAnswer (f : Facts) (letter : Char) (path : Bytes) : Bool :=
  let item := f.item? path (letter != 'h' && letter != 'L')
  let has (bit : Nat) : Bool := (item.map (·.mode / bit % 2 == 1)).getD false
  match letter, item.map Item.node with
  | _, none => false
  | 'h', some (.link _) | 'L', some (.link _) => true
  | 'd', some .directory => true
  | 'f', some (.file _) => true
  | 'c', some (.device _) => true
  | 'x', some .directory => true
  | 'x', some (.file _) => (item.map (·.isExecutable)).getD false
  | 's', some .directory => true
  | 's', some (.file content) => !content.isEmpty || (item.map (·.isExecutable)).getD false
  | 'k', some _ => has 0o1000
  | 'g', some _ => has 0o2000
  | 'u', some _ => has 0o4000
  | letter, some _ => "erwOG".toList.contains letter

abbrev Answer := Except Bytes

def number (text : Bytes) : Answer Int :=
  match Number.ofText? false text with
  | some n => .ok n
  | none => .error ("Illegal number: ".toList ++ text)

def compare (f : Facts) (name : String) (a b : Bytes) : Answer Bool := do
  match name with
  | "=" => return a == b
  | "!=" => return a != b
  | "<" => return decide (a < b)
  | ">" => return decide (b < a)
  | "-nt" | "-ot" =>
    let time (path : Bytes) : Option Int := (f.item? path true).map (·.time)
    return match (if name == "-nt" then (time b, time a) else (time a, time b)) with
      | (some older, some newer) => decide (older < newer)
      | _ => false
  | "-ef" =>
    match f.tree.find f.working a true, f.tree.find f.working b true with
    | .ok p, .ok q =>
      return (p == q || f.tree.number? p == f.tree.number? q) && (f.tree.node? p).isSome &&
        (f.tree.node? q).isSome
    | _, _ => return false
  | _ =>
    let m ← number a
    let n ← number b
    match name with
    | "-eq" => return m = n
    | "-ne" => return m ≠ n
    | "-lt" => return m < n
    | "-le" => return m ≤ n
    | "-gt" => return m > n
    | _ => return m ≥ n

def lex : List Bytes → Option Operator
  | [] => none
  | a :: rest =>
    match Operator.ofText? a, rest with
    | some (.unary _), [] => none
    | some (.unary letter), [_] => some (.unary letter)
    | some (.unary letter), b :: _ => if isBinary b then none else some (.unary letter)
    | some .open, [] => none
    | operator, _ => operator

abbrev Inner := List Bytes → Answer (Bool × List Bytes)

def primary (f : Facts) (inner : Inner) (arguments : List Bytes) : Answer (Bool × List Bytes) := do
  match lex arguments, arguments with
  | _, [] => return (false, [])
  | some .open, _ :: rest =>
    if lex rest == some .close then return (false, rest)
    let (answer, left) ← inner rest
    if lex left.tail == some .close then return (answer, left.tail)
    else throw "closing paren expected".toList
  | some (.unary letter), operator :: rest =>
    match rest with
    | [] => throw (operator ++ ": argument expected".toList)
    | a :: _ =>
      match letter with
      | 'z' => return (a.isEmpty, rest)
      | 'n' => return (!a.isEmpty, rest)
      | 't' =>
        let _ ← number a
        return (false, rest)
      | _ => return (fileAnswer f letter a, rest)
  | _, a :: rest =>
    match lex rest, rest with
    | some (.binary name), operator :: more =>
      match more with
      | [] => throw (operator ++ ": argument expected".toList)
      | b :: _ => return (← compare f name a b, more)
    | _, _ => return (!a.isEmpty, arguments)

def negation (f : Facts) (inner : Inner) : Nat → List Bytes → Answer (Bool × List Bytes)
  | 0, arguments => primary f inner arguments
  | limit + 1, arguments =>
    if lex arguments == some .not then do
      let rest := if arguments.length = 1 then arguments else arguments.tail
      let (answer, left) ← if arguments.length = 1 then pure (false, rest)
        else negation f inner limit rest
      return (!answer, left)
    else primary f inner arguments

def conjunction (f : Facts) (inner : Inner) : Nat → List Bytes → Answer (Bool × List Bytes)
  | 0, arguments => negation f inner arguments.length arguments
  | limit + 1, arguments => do
    let (left, rest) ← negation f inner arguments.length arguments
    if lex rest.tail == some .and then
      let (right, rest) ← conjunction f inner limit (rest.drop 2)
      return (left && right, rest)
    else return (left, rest)

def disjunction (f : Facts) (inner : Inner) : Nat → List Bytes → Answer (Bool × List Bytes)
  | 0, arguments => conjunction f inner arguments.length arguments
  | limit + 1, arguments => do
    let (left, rest) ← conjunction f inner arguments.length arguments
    if lex rest.tail == some .or then
      let (right, rest) ← disjunction f inner limit (rest.drop 2)
      return (left || right, rest)
    else return (left, rest)

def whole (f : Facts) : Nat → Inner
  | 0, _ => throw "closing paren expected".toList
  | depth + 1, arguments => disjunction f (whole f depth) arguments.length arguments

def complete (f : Facts) (arguments : List Bytes) : Answer Bool := do
  let (answer, left) ← whole f (arguments.length + 1) arguments
  match left with
  | a :: _ :: _ => throw (a ++ ": unexpected operator".toList)
  | _ => return answer

/-- What a test of a few arguments comes down to, whose meaning hangs on how many there are: the
    opposite of a test, if it starts with an exclamation mark, and the test itself. A second mark
    right after the first one changes nothing. -/
def split (arguments : List Bytes) : Nat → Bool × List Bytes
  | 0 => (false, arguments)
  | limit + 1 =>
    let short := match arguments with
      | [_, b, _] => !isBinary b
      | [_, _, _, _] => true
      | _ => false
    if !short then (false, arguments)
    else
      match arguments with
      | ['('] :: rest =>
        (false, if rest.getLast? == some [')'] then rest.dropLast else arguments)
      | ['!'] :: rest => (true, (split rest limit).2)
      | _ => (false, arguments)

def ofArguments (f : Facts) (arguments : List Bytes) : Answer Bool := do
  let (negated, arguments) := split arguments 2
  let answer ← match arguments with
    | [] => pure false
    | [a, b, c] =>
      match Operator.ofText? b with
      | some (.binary name) => compare f name a c
      | _ => complete f arguments
    | _ => complete f arguments
  return answer != negated

def answer (f : Facts) (bracket : Bool) (arguments : List Bytes) : Answer Bool :=
  if bracket then
    match arguments.getLast? with
    | some (']' :: _) => ofArguments f arguments.dropLast
    | _ => throw "missing ]".toList
  else ofArguments f arguments

end Gesture.Shell.Test
