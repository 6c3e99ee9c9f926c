import Gesture.Shell.Syntax

namespace Gesture.Shell.Glob

def classOf? (name : String) : Option (Char → Bool) :=
  let isPrint (c : Char) : Bool := decide ('!' ≤ c) && decide (c ≤ '~')
  match name with
  | "alnum" => some Char.isAlphanum
  | "alpha" => some Char.isAlpha
  | "blank" => some fun c => c == ' ' || c == '\t'
  | "cntrl" => some fun c => decide (c < ' ') || c == '\x7f'
  | "digit" => some Char.isDigit
  | "graph" => some isPrint
  | "lower" => some Char.isLower
  | "print" => some fun c => isPrint c || c == ' '
  | "punct" => some fun c => isPrint c && !c.isAlphanum
  | "space" => some fun c => c == ' ' || (decide ('\t' ≤ c) && decide (c ≤ '\r'))
  | "upper" => some Char.isUpper
  | "xdigit" => some fun c =>
      c.isDigit || (decide ('a' ≤ c.toLower) && decide (c.toLower ≤ 'f'))
  | _ => none

def classNames : List String :=
  ["alnum", "alpha", "blank", "cntrl", "digit", "graph", "lower", "print", "punct", "space",
    "upper", "xdigit"]

inductive Member where
  | range (low high : Char)
  | named (name : String)
  deriving DecidableEq, Repr

def Member.has (m : Member) (c : Char) : Bool :=
  match m with
  | .range low high => decide (low ≤ c) && decide (c ≤ high)
  | .named name => ((classOf? name).map (· c)).getD false

inductive Item where
  | char (c : Char)
  | one
  | many
  | set (negated : Bool) (members : List Member)
  deriving DecidableEq, Repr

abbrev Sign := Char × Bool

/-- The signs of a pattern. A backslash without quotes takes the meaning from the next character. -/
def signs : List Sign → List Sign
  | ('\\', false) :: (c, _) :: rest => (c, true) :: signs rest
  | ('\\', false) :: [] => [('\\', true)]
  | s :: rest => s :: signs rest
  | [] => []

def namedClass? (text : List Sign) : Option (Member × List Sign) :=
  match text with
  | (':', false) :: rest =>
    classNames.findSome? fun name =>
      let ending := (name ++ ":]").toList.map fun c => (c, false)
      if ending.isPrefixOf rest then some (.named name, rest.drop ending.length) else none
  | _ => none

/-- The members of a set up to its closing bracket, and what follows it. The text has at most `limit`
    signs; a bracket that comes first is a member. -/
def members? : Nat → Bool → List Sign → Option (List Member × List Sign)
  | 0, _, _ => none
  | _ + 1, _, [] => none
  | limit + 1, first, (c, literal) :: rest =>
    if c == ']' && !literal && !first then some ([], rest)
    else
      match (if c == '[' && !literal then namedClass? rest else none) with
      | some (m, rest) => (members? limit false rest).map fun p => (m :: p.1, p.2)
      | none =>
        match rest with
        | ('-', false) :: (high, isLiteral) :: after =>
          if high == ']' && !isLiteral then
            (members? limit false rest).map fun p => (.range c c :: p.1, p.2)
          else (members? limit false after).map fun p => (.range c high :: p.1, p.2)
        | _ => (members? limit false rest).map fun p => (.range c c :: p.1, p.2)

def set? (text : List Sign) : Option (Item × List Sign) :=
  let (negated, body) : Bool × List Sign := match text with
    | ('!', false) :: rest => (true, rest)
    | _ => (false, text)
  (members? body.length true body).map fun p => (.set negated p.1, p.2)

def itemsOf : Nat → List Sign → List Item
  | 0, _ => []
  | _ + 1, [] => []
  | limit + 1, (c, literal) :: rest =>
    if literal then .char c :: itemsOf limit rest
    else
      match c with
      | '?' => .one :: itemsOf limit rest
      | '*' => .many :: itemsOf limit rest
      | '[' =>
        match set? rest with
        | some (item, after) => item :: itemsOf limit after
        | none => .char '[' :: itemsOf limit rest
      | c => .char c :: itemsOf limit rest

def items (pattern : List Sign) : List Item :=
  let pattern := signs pattern
  itemsOf pattern.length pattern

def anyEnd (test : List Char → Bool) : List Char → Bool
  | [] => test []
  | c :: rest => test (c :: rest) || anyEnd test rest

def accepts : List Item → List Char → Bool
  | [], text => text.isEmpty
  | .many :: rest, text => anyEnd (accepts rest) text
  | .char c :: rest, d :: text => c == d && accepts rest text
  | .one :: rest, _ :: text => accepts rest text
  | .set negated members :: rest, d :: text =>
    (members.any (·.has d)) != negated && accepts rest text
  | _ :: _, [] => false

def hasMagic (pattern : List Sign) : Bool :=
  pattern.any fun (c, literal) => !literal && (c == '*' || c == '?' || c == '[')

end Gesture.Shell.Glob
