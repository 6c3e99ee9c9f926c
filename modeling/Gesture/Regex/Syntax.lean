
namespace Gesture.Regex

inductive Flag where
  | ignoreCase
  | locale
  | multiline
  | dotAll
  | verbose
  | ascii
  | template
  | unicode
  deriving DecidableEq, Repr

abbrev Flags := List Flag

namespace Flag

def ofChar? : Char → Option Flag
  | 'i' => some .ignoreCase
  | 'L' => some .locale
  | 'm' => some .multiline
  | 's' => some .dotAll
  | 'x' => some .verbose
  | 'a' => some .ascii
  | 't' => some .template
  | 'u' => some .unicode
  | _ => none

def isClass (f : Flag) : Bool :=
  f == .ascii || f == .locale || f == .unicode

end Flag

namespace Flags

def combine (flags on off : Flags) : Flags :=
  let kept := if on.any Flag.isClass then flags.filter (!·.isClass) else flags
  (kept ++ on).filter (!off.contains ·)

def foldsCase (flags : Flags) : Bool :=
  flags.contains .ignoreCase

def isUnicode (flags : Flags) : Bool :=
  flags.contains .unicode

end Flags

inductive Category where
  | digit
  | space
  | word
  deriving DecidableEq, Repr

/-- A member of a character set. Characters are given by code, since an escape can name half of a
    surrogate pair, which no text contains. -/
inductive SetItem where
  | char (code : Nat)
  | range (low high : Nat)
  | category (kind : Category) (negated : Bool)
  deriving DecidableEq, Repr

inductive Anchor where
  | lineStart
  | lineEnd
  | textStart
  | textEnd
  | boundary
  | noBoundary
  deriving DecidableEq, Repr

/-- How a repetition chooses its count: most first, fewest first, or most without going back. -/
inductive Greed where
  | greedy
  | reluctant
  | possessive
  deriving DecidableEq, Repr

def unbounded : Nat := 4294967295

structure Width where
  low : Nat
  high : Nat
  deriving DecidableEq, Repr

namespace Width

def add (a b : Width) : Width :=
  ⟨a.low + b.low, a.high + b.high⟩

def either (a b : Width) : Width :=
  ⟨min a.low b.low, max a.high b.high⟩

def times (w : Width) (low : Nat) (high : Option Nat) : Width :=
  ⟨w.low * low, w.high * high.getD unbounded⟩

def capped (w : Width) : Width :=
  ⟨min w.low (unbounded - 1), min w.high unbounded⟩

end Width

inductive Node where
  | char (negated : Bool) (code : Nat)
  | any
  | set (negated : Bool) (items : List SetItem)
  | anchor (a : Anchor)
  | alt (branches : List (List Node))
  | group (index : Nat) (body : List Node)
  | scoped (on off : Flags) (body : List Node)
  | backref (index : Nat) (width : Width)
  | look (ahead negated : Bool) (body : List Node)
  | conditional (index : Nat) (yes no : List Node)
  | atomic (body : List Node)
  | repeated (greed : Greed) (low : Nat) (high : Option Nat) (body : List Node)

namespace Node

mutual

def width : Node → Width
  | .anchor _ | .look .. => ⟨0, 0⟩
  | .char .. | .any | .set .. => ⟨1, 1⟩
  | .alt branches => widthOfAny branches
  | .group _ body | .scoped _ _ body | .atomic body => (widthOfAll body).capped
  | .backref _ width => width
  | .conditional _ yes no => (widthOfAll yes).capped.either (widthOfAll no).capped
  | .repeated _ low high body => (widthOfAll body).capped.times low high

def widthOfAll : List Node → Width
  | [] => ⟨0, 0⟩
  | node :: rest => node.width.add (widthOfAll rest)

def widthOfAny : List (List Node) → Width
  | [] => ⟨0, 0⟩
  | [branch] => (widthOfAll branch).capped
  | branch :: rest => (widthOfAll branch).capped.either (widthOfAny rest)

end

/-- Whether two nodes are the same character, set, place or reference. Nodes with parts of their own
    are never taken for the same. -/
def sameLeaf : Node → Node → Bool
  | .char negated code, .char negated' code' => negated == negated' && code == code'
  | .any, .any => true
  | .set negated items, .set negated' items' => negated == negated' && items == items'
  | .anchor a, .anchor a' => a == a'
  | .backref index _, .backref index' _ => index == index'
  | _, _ => false

def sequenceWidth (nodes : List Node) : Width :=
  (widthOfAll nodes).capped

def unwrap : Node → List Node
  | .scoped [] [] body => body
  | node => [node]

def commonLead (first : List Node) (others : List (List Node)) :
    List Node × List Node × List (List Node) :=
  match first with
  | [] => ([], [], others)
  | node :: rest =>
    if others.all fun branch => (branch.head?.map (sameLeaf node)).getD false then
      let (lead, first, others) := commonLead rest (others.map List.tail)
      (node :: lead, first, others)
    else ([], first, others)

/-- The members of a set that matches what one of the branches does, if each is a single character
    or a set. -/
def mergedItems? : List (List Node) → Option (List SetItem)
  | [] => some []
  | [.char false code] :: rest => do return .char code :: (← mergedItems? rest)
  | [.set false items] :: rest => do return items ++ (← mergedItems? rest)
  | _ => none

/-- The sequence for a choice between branches. What they have in common comes first, and a choice
    between single characters is a set. -/
def ofBranches : List (List Node) → List Node
  | [] => []
  | [branch] => branch
  | branch :: others =>
    let (lead, first, others) := commonLead branch others
    match mergedItems? (first :: others) with
    | some items => lead ++ [.set false items.eraseDups]
    | none => lead ++ [.alt (first :: others)]

end Node

end Gesture.Regex
