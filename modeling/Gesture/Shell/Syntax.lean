
namespace Gesture.Shell

abbrev Bytes := List Char

def Bytes.isSorted : Bytes → Bytes → Bool
  | [], _ => true
  | _ :: _, [] => false
  | a :: as, b :: bs => if a == b then Bytes.isSorted as bs else a.toNat.blt b.toNat

inductive Use where
  | value
  | length
  | orElse
  | assign
  | require
  | instead
  | trimEnd (longest : Bool)
  | trimStart (longest : Bool)
  | unknown
  deriving DecidableEq, Repr

inductive Opening where
  | read
  | write
  | overwrite
  | append
  | readWrite
  deriving DecidableEq, Repr

mutual

inductive Part where
  | char (c : Char) (quoted : Bool)
  | quote
  | parameter (name : Bytes) (use : Use) (filled : Bool) (word : List Part)
  | output (script : Option Command)
  | sum (expression : List Part)

inductive Redirection where
  | file (descriptor : Nat) (opening : Opening) (name : List Part)
  | copy (descriptor : Nat) (source : List Part)
  | document (descriptor : Nat) (number : Nat)

inductive Choice where
  | mk (patterns : List (List Part)) (body : Option Command)

inductive Command where
  | simple (line : Nat) (assignments words : List (List Part)) (redirections : List Redirection)
  | pipeline (commands : List Command) (background : Bool)
  | redirected (line : Nat) (body : Command) (redirections : List Redirection)
  | subshell (line : Nat) (body : Command) (redirections : List Redirection)
  | background (line : Nat) (body : Command) (redirections : List Redirection)
  | sequence (commands : List Command)
  | both (left right : Command)
  | either (left right : Command)
  | negation (body : Command)
  | branch (test yes : Command) (no : Option Command)
  | loop (untilSuccess : Bool) (test body : Command)
  | each (line : Nat) (variableName : Bytes) (words : List (List Part)) (body : Command)
  | choose (line : Nat) (subject : List Part) (choices : List Choice)
  | define (line : Nat) (name : Bytes) (body : Command)

end

abbrev Word := List Part

abbrev Script := Option Command

def isNameStart (c : Char) : Bool :=
  c.isAlpha || c == '_'

def isNameChar (c : Char) : Bool :=
  c.isAlphanum || c == '_'

def isName : Bytes → Bool
  | [] => false
  | c :: rest => isNameStart c && rest.all isNameChar

def splitAssignment? (text : Bytes) : Option (Bytes × Bytes) :=
  let name := text.takeWhile (· != '=')
  match text.dropWhile (· != '=') with
  | _ :: value => if isName name then some (name, value) else none
  | [] => none

namespace Word

def plain? : Word → Option Bytes
  | [] => some []
  | .char c false :: rest => (plain? rest).map (c :: ·)
  | _ => none

def characters : Word → Bytes
  | [] => []
  | .char c _ :: rest => c :: characters rest
  | _ :: rest => characters rest

def isAssignmentAfter (started : Bool) : Word → Bool
  | .char c false :: rest =>
    if c == '=' then started
    else (if started then isNameChar c else isNameStart c) && isAssignmentAfter true rest
  | _ => false

def isAssignment (w : Word) : Bool :=
  isAssignmentAfter false w

end Word

def iterate {ε σ α β : Type} (stuck : ε) (step : α → EStateM ε σ (α ⊕ β)) :
    Nat → α → EStateM ε σ β
  | 0, _ => fun s => .error stuck s
  | limit + 1, a => fun s =>
    match step a s with
    | .ok (.inl a) s => iterate stuck step limit a s
    | .ok (.inr b) s => .ok b s
    | .error e s => .error e s

end Gesture.Shell
