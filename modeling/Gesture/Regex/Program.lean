import Gesture.Regex.CharTest
import Gesture.Regex.Error
import Gesture.Regex.Parser

namespace Gesture.Regex

inductive Instruction where
  | one (test : CharTest)
  | anchor (a : Anchor) (flags : Flags)
  | mark (index : Nat)
  | choice (branches : List (List Instruction))
  | run (greed : Greed) (low : Nat) (high : Option Nat) (test : CharTest)
  | rounds (greed : Greed) (low : Nat) (high : Option Nat) (body : List Instruction)
  | atomic (body : List Instruction)
  | look (back : Nat) (negated : Bool) (body : List Instruction)
  | again (folding : Folding) (group : Nat)
  | conditional (group : Nat) (yes no : List Instruction)

namespace Instruction

def ofRepeated (greed : Greed) (low : Nat) (high : Option Nat) : List Instruction → Instruction
  | [.one test] => .run greed low high test
  | body => .rounds greed low high body

def literal? : List Instruction → Option Nat
  | .one test :: _ => test.code?
  | _ => none

end Instruction

def Greed.operator : Greed → String
  | .greedy => "MAX_REPEAT"
  | .reluctant => "MIN_REPEAT"
  | .possessive => "POSSESSIVE_REPEAT"

namespace Node

mutual

def compile (flags : Flags) : Node → List Instruction
  | .char negated code => [.one (CharTest.ofChar flags negated code)]
  | .any => [.one (.any (flags.contains .dotAll))]
  | .set negated items => [.one (.set (CharSet.ofItems flags negated items))]
  | .anchor a => [.anchor a flags]
  | .alt branches => [.choice (compileEach flags branches)]
  | .group index body =>
    .mark (2 * (index - 1)) :: compileAll flags body ++ [.mark (2 * (index - 1) + 1)]
  | .scoped on off body => compileAll (flags.combine on off) body
  | .backref index _ => [.again (Folding.ofFlags flags) (index - 1)]
  | .look ahead negated body =>
    [.look (if ahead then 0 else (sequenceWidth body).low) negated (compileAll flags body)]
  | .conditional index yes no =>
    [.conditional (index - 1) (compileAll flags yes) (compileAll flags no)]
  | .atomic body => [.atomic (compileAll flags body)]
  | .repeated greed low high body =>
    [Instruction.ofRepeated greed low high (compileAll flags body)]

def compileAll (flags : Flags) : List Node → List Instruction
  | [] => []
  | node :: rest => node.compile flags ++ compileAll flags rest

def compileEach (flags : Flags) : List (List Node) → List (List Instruction)
  | [] => []
  | branch :: rest => compileAll flags branch :: compileEach flags rest

end

def reach : Nat := 2147483648

def lookbehindFaults (w : Width) : List Error :=
  if w.low ≠ w.high then [.invalid .variableLookbehind none]
  else if reach ≤ w.low then [.distantLookbehind]
  else []

mutual

/-- The faults of a node: a lookbehind has one width, which is in reach, and nothing is repeated in
    a template. -/
def faults (template : Bool) : Node → List Error
  | .char .. | .any | .set .. | .anchor _ | .backref .. => []
  | .alt branches => faultsOfEach template branches
  | .group _ body | .scoped _ _ body | .atomic body => faultsOfAll template body
  | .look ahead _ body =>
    (if ahead then [] else lookbehindFaults (sequenceWidth body)) ++ faultsOfAll template body
  | .conditional _ yes no => faultsOfAll template yes ++ faultsOfAll template no
  | .repeated greed _ _ body =>
    (if template then [.invalid (.unsupportedRepeat greed.operator) none] else []) ++
    faultsOfAll template body

def faultsOfAll (template : Bool) : List Node → List Error
  | [] => []
  | node :: rest => node.faults template ++ faultsOfAll template rest

def faultsOfEach (template : Bool) : List (List Node) → List Error
  | [] => []
  | branch :: rest => faultsOfAll template branch ++ faultsOfEach template rest

end

/-- How an expression starts: with one character that is always the same, with nothing, which goes
    for an expression of empty groups, or otherwise. -/
inductive Lead where
  | literal
  | nothing
  | other
  deriving DecidableEq, Repr

mutual

def lead (flags : Flags) : Node → Lead
  | .char false code => if (Folding.ofFlags flags).hasCase code then .other else .literal
  | .group _ body => leadOfAll flags body
  | .scoped on off body => leadOfAll (flags.combine on off) body
  | _ => .other

def leadOfAll (flags : Flags) : List Node → Lead
  | [] => .nothing
  | node :: rest =>
    match node.lead flags with
    | .nothing => leadOfAll flags rest
    | found => found

end

def leadingItem? (flags : Flags) : List Node → Option SetItem
  | .char false code :: _ =>
    if (Folding.ofFlags flags).hasCase code then none else some (.char code)
  | _ => none

/-- Whether case matters for no item of a set, as far as can be seen without looking at code points
    above the limit. -/
def heedsCase (f : Folding) : SetItem → Bool
  | .char code => !f.hasCase code
  | .range low high =>
    f == .none || (decide (high < foldingLimit) && !f.hasCaseBetween low high)
  | .category .. => true

mutual

/-- The items of a set, and whether it is negated, of the characters that a node can start with. -/
def firstItems? (flags : Flags) : Node → Option (Bool × List SetItem)
  | .char false code => (leadingItem? flags [.char false code]).map fun item => (false, [item])
  | .set negated items =>
    if items.all (heedsCase (Folding.ofFlags flags)) then some (negated, items) else none
  | .alt branches => (branches.mapM (leadingItem? flags)).map fun items => (false, items)
  | .group _ body => firstItemsOfAll? flags body
  | .scoped on off body => firstItemsOfAll? (flags.combine on off) body
  | _ => none

def firstItemsOfAll? (flags : Flags) : List Node → Option (Bool × List SetItem)
  | [] => none
  | node :: _ => node.firstItems? flags

end

end Node

/-- A program: its instructions, the number of its groups, the least width of a match, whether it
    starts with a character that is always the same, and the characters that it can start with as
    far as they are known. -/
structure Program where
  instructions : List Instruction
  groups : Nat
  low : Nat
  startsLiteral : Bool
  first : Option CharSet

namespace Program

/-- The program of an expression. Classes in the set of first characters follow the flags of the
    whole expression. -/
def ofExpression (e : Expression) : Except Error Program :=
  let faults := Node.faultsOfAll (e.flags.contains .template) e.nodes
  match faults.find? (· != .distantLookbehind) <|> faults.head? with
  | some fault => .error fault
  | none =>
    let low := (Node.sequenceWidth e.nodes).low
    let first :=
      if low = 0 then none
      else (Node.firstItemsOfAll? e.flags e.nodes).map fun (negated, items) =>
        plainSet e.flags negated items
    .ok ⟨Node.compileAll e.flags e.nodes, e.groups, low,
      Node.leadOfAll e.flags e.nodes == .literal, first⟩

end Program

end Gesture.Regex
