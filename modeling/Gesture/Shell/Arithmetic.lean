import Gesture.Shell.Number
import Gesture.Shell.Variables

namespace Gesture.Shell.Arithmetic

inductive Token where
  | number (n : Int)
  | name (name : Bytes)
  | sign (s : String)
  | unknown
  deriving DecidableEq, Repr

def signs : List String :=
  ["<<=", ">>=", "<<", ">>", "<=", ">=", "==", "!=", "&&", "||", "+=", "-=", "*=", "/=", "%=", "&=",
    "^=", "|=", "<", ">", "=", "!", "&", "|", "^", "~", "+", "-", "*", "/", "%", "(", ")", "?", ":"]

def tokensOf : Nat → Bytes → List Token
  | 0, _ => []
  | _ + 1, [] => []
  | limit + 1, c :: rest =>
    if c == ' ' || c == '\t' || c == '\n' then tokensOf limit rest
    else if c.isDigit then
      let s := Number.scan true (c :: rest)
      .number (Number.clamp s.value) :: tokensOf limit s.rest
    else if isNameStart c then
      let name := c :: rest.takeWhile isNameChar
      .name name :: tokensOf limit (rest.dropWhile isNameChar)
    else
      match signs.find? fun s => s.toList.isPrefixOf (c :: rest) with
      | some s => .sign s :: tokensOf limit ((c :: rest).drop s.length)
      | none => .unknown :: tokensOf limit rest

structure State where
  tokens : List Token
  source : Bytes

abbrev Eval := StateT State Run

def fail {α : Type} (message : String) : Eval α := do
  let s ← get
  Run.failWith
    ("arithmetic expression: ".toList ++ message.toList ++ ": \"".toList ++ s.source ++ ['"'])

def peek : Eval (Option Token) := do
  return (← get).tokens.head?

def skip : Eval Unit :=
  modify fun s => { s with tokens := s.tokens.tail }

def accept (sign : String) : Eval Bool := do
  if (← peek) == some (.sign sign) then
    skip
    return true
  return false

def level? : String → Option Nat
  | "*" | "/" | "%" => some 0
  | "+" | "-" => some 1
  | "<<" | ">>" => some 2
  | "<" | "<=" | ">" | ">=" => some 3
  | "==" | "!=" => some 4
  | "&" => some 5
  | "^" => some 6
  | "|" => some 7
  | _ => none

def truth (b : Bool) : Int :=
  if b then 1 else 0

def bitwise (f : Nat → Nat → Nat) (a b : Int) : Int :=
  Number.wrap (f (Number.unsigned a) (Number.unsigned b))

def operate (sign : String) (a b : Int) : Eval Int := do
  let shift := Number.unsigned b % 64
  match sign with
  | "*" => return Number.wrap (a * b)
  | "/" | "%" =>
    if b = 0 then fail "division by zero"
    if a = Number.least ∧ b = -1 then throw (.killed 8)
    return if sign = "/" then a.tdiv b else a.tmod b
  | "+" => return Number.wrap (a + b)
  | "-" => return Number.wrap (a - b)
  | "<<" => return Number.wrap (Number.unsigned a * Nat.pow 2 shift)
  | ">>" => return Int.fdiv a (Nat.pow 2 shift)
  | "<" => return truth (a < b)
  | "<=" => return truth (a ≤ b)
  | ">" => return truth (a > b)
  | ">=" => return truth (a ≥ b)
  | "==" => return truth (a = b)
  | "!=" => return truth (a ≠ b)
  | "&" => return bitwise Nat.land a b
  | "^" => return bitwise Nat.xor a b
  | "|" => return bitwise Nat.lor a b
  | _ => return b

def valueOf (name : Bytes) : Eval Int := do
  let value := (← (Run.value? name : Run _)).getD []
  match Number.ofText? true value with
  | some n => return n
  | none => (Run.failWith ("Illegal number: ".toList ++ value) : Run Int)

def assignmentSign? (s : String) : Option String :=
  if ["=", "+=", "-=", "*=", "/=", "%=", "<<=", ">>=", "&=", "^=", "|="].contains s then
    some (String.ofList s.toList.dropLast)
  else none

abbrev Inner := Bool → Eval Int

def primary (inner : Inner) (unary : Inner) (skipped : Bool) : Eval Int := do
  match ← peek with
  | some (.sign "(") =>
    skip
    let n ← inner skipped
    if !(← accept ")") then fail "expecting ')'"
    return n
  | some (.number n) =>
    skip
    return n
  | some (.name name) =>
    skip
    if skipped then return 0 else valueOf name
  | some (.sign "+") =>
    skip
    unary skipped
  | some (.sign "-") =>
    skip
    return Number.wrap (-(← unary skipped))
  | some (.sign "!") =>
    skip
    return truth ((← unary skipped) = 0)
  | some (.sign "~") =>
    skip
    return Number.wrap (-(← unary skipped) - 1)
  | _ => fail "expecting primary"

def nextOperator? (below : Nat) : Eval (Option (String × Nat)) := do
  match ← peek with
  | some (.sign s) => return (level? s).bind fun l => if l < below then some (s, l) else none
  | _ => return none

/-- Values with signs between them that bind more tightly than a level; `limit` bounds how many. -/
def binary (primary : Inner) (skipped : Bool) : Nat → Nat → Int → Eval Int
  | 0, _, left => return left
  | limit + 1, below, left => do
    match ← nextOperator? below with
    | none => return left
    | some (sign, level) =>
      skip
      let first ← primary skipped
      let right ← binary primary skipped limit level first
      let n ← if skipped then pure right else operate sign left right
      binary primary skipped limit below n

def values (primary : Inner) (skipped : Bool) : Eval Int := do
  let left ← primary skipped
  binary primary skipped (← get).tokens.length 8 left

def conjunction (primary : Inner) : Nat → Bool → Eval Int
  | 0, skipped => values primary skipped
  | limit + 1, skipped => do
    let left ← values primary skipped
    if ← accept "&&" then
      let right ← conjunction primary limit (skipped || left = 0)
      return truth (left ≠ 0 ∧ right ≠ 0)
    return left

def disjunction (primary : Inner) : Nat → Bool → Eval Int
  | 0, skipped => values primary skipped
  | limit + 1, skipped => do
    let left ← conjunction primary (← get).tokens.length skipped
    if ← accept "||" then
      let right ← disjunction primary limit (skipped || left ≠ 0)
      return truth (left ≠ 0 ∨ right ≠ 0)
    return left

def conditional (inner primary : Inner) : Nat → Bool → Eval Int
  | 0, skipped => values primary skipped
  | limit + 1, skipped => do
    let test ← disjunction primary (← get).tokens.length skipped
    if ← accept "?" then
      let yes ← inner (skipped || test = 0)
      if !(← accept ":") then fail "expecting ':'"
      let no ← conditional inner primary limit (skipped || test ≠ 0)
      return if test ≠ 0 then yes else no
    return test

def assignment (inner primary : Inner) (skipped : Bool) : Eval Int := do
  let tokens := (← get).tokens
  match tokens with
  | .name name :: .sign s :: _ =>
    match assignmentSign? s with
    | some operator =>
      skip
      skip
      let n ← inner skipped
      if skipped then return n
      let n ← if operator.isEmpty then pure n else operate operator (← valueOf name) n
      (Run.assign name (Number.shown n) false : Run Unit)
      return n
    | none => conditional inner primary tokens.length skipped
  | _ => conditional inner primary tokens.length skipped

def atLevel : Nat → Inner × Inner
  | 0 => (fun _ => throw .tooDeep, fun _ => throw .tooDeep)
  | depth + 1 =>
    let below := atLevel depth
    let value := primary below.1 below.2
    (assignment below.1 value, value)

def evaluate (source : Bytes) : Run Int := do
  let tokens := tokensOf source.length source
  let whole : Eval Int := do
    let n ← (atLevel (2 * tokens.length + 2)).1 false
    if (← peek).isSome then fail "expecting EOF"
    return n
  let (n, _) ← whole.run ⟨tokens, source⟩
  return n

end Gesture.Shell.Arithmetic
