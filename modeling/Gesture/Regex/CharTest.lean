import Gesture.Regex.Syntax
import Gesture.Text.Blank
import Gesture.Text.Case
import Gesture.Text.Digit
import Gesture.Text.Letter

namespace Gesture.Regex

def isAsciiSpace (code : Nat) : Bool :=
  code == 0x20 || (decide (0x09 ≤ code) && decide (code ≤ 0x0D))

def isAsciiWord (code : Nat) : Bool :=
  (decide (0x30 ≤ code) && decide (code ≤ 0x39)) ||
  (decide (0x41 ≤ code) && decide (code ≤ 0x5A)) ||
  (decide (0x61 ≤ code) && decide (code ≤ 0x7A)) || code == 0x5F

def isWord (wide : Bool) (code : Nat) : Bool :=
  if wide then Text.isAlphanumeric code || code == 0x5F else isAsciiWord code

def Category.holds (wide : Bool) (code : Nat) : Category → Bool
  | .digit =>
    if wide then Text.isDigitCode code else decide (0x30 ≤ code) && decide (code ≤ 0x39)
  | .space => if wide then Text.isBlankCode code else isAsciiSpace code
  | .word => isWord wide code

inductive Folding where
  | none
  | ascii
  | unicode
  deriving DecidableEq, Repr

namespace Folding

def ofFlags (flags : Flags) : Folding :=
  if !flags.foldsCase then .none else if flags.isUnicode then .unicode else .ascii

def lower (code : Nat) : Folding → Nat
  | .none => code
  | .ascii => if 0x41 ≤ code ∧ code ≤ 0x5A then code + 0x20 else code
  | .unicode => Text.lowerCode code

def hasCaseBetween (low high : Nat) : Folding → Bool
  | .none => false
  | .ascii =>
    (decide (low ≤ 0x5A) && decide (0x41 ≤ high)) || (decide (low ≤ 0x7A) && decide (0x61 ≤ high))
  | .unicode => Text.hasCaseBetween low high

def hasCase (f : Folding) (code : Nat) : Bool :=
  f.hasCaseBetween code code

def matchesBetween (low high code : Nat) : Folding → Bool
  | .none => decide (low ≤ code) && decide (code ≤ high)
  | .ascii =>
    (decide (low ≤ code) && decide (code ≤ high)) ||
    (decide (0x61 ≤ code) && decide (code ≤ 0x7A) &&
      decide (low ≤ code - 0x20) && decide (code - 0x20 ≤ high))
  | .unicode => Text.sameLetterBetween low high code

end Folding

inductive Member where
  | range (low high : Nat)
  | folded (low high : Nat)
  | eitherCase (low high : Nat)
  | category (kind : Category) (wide negated : Bool)
  deriving DecidableEq, Repr

/-- Whether a member holds a code point, which is in lower case if letters lose their case. -/
def Member.holds (f : Folding) (code : Nat) : Member → Bool
  | .range low high => decide (low ≤ code) && decide (code ≤ high)
  | .folded low high => f.matchesBetween low high code
  | .eitherCase low high =>
    (decide (low ≤ code) && decide (code ≤ high)) ||
    (decide (low ≤ Text.upperCode code) && decide (Text.upperCode code ≤ high))
  | .category kind wide negated => kind.holds wide code != negated

structure CharSet where
  folding : Folding
  negated : Bool
  members : List Member
  deriving DecidableEq, Repr

namespace CharSet

def holds (s : CharSet) (c : Char) : Bool :=
  let code := s.folding.lower c.toNat
  s.members.any (·.holds s.folding code) != s.negated

end CharSet

def foldingLimit : Nat := 0x10000

namespace SetItem

def plain (wide : Bool) : SetItem → Member
  | .char code => .range code code
  | .range low high => .range low high
  | .category kind negated => .category kind wide negated

def hasCase (f : Folding) : SetItem → Bool
  | .char code => decide (foldingLimit ≤ f.lower code) || f.hasCase code
  | .range low high => decide (foldingLimit ≤ high) || f.hasCaseBetween low high
  | .category .. => false

def folded (f : Folding) (wide : Bool) : SetItem → List Member
  | .char code =>
    if f.lower code < foldingLimit then [.folded code code] else [.range code code]
  | .range low high =>
    if high < foldingLimit then [.folded low high]
    else [.folded low (foldingLimit - 1), .eitherCase low high]
  | .category kind negated => [.category kind wide negated]

end SetItem

def plainSet (flags : Flags) (negated : Bool) (items : List SetItem) : CharSet :=
  ⟨.none, negated, items.map (SetItem.plain flags.isUnicode)⟩

def CharSet.ofItems (flags : Flags) (negated : Bool) (items : List SetItem) : CharSet :=
  let f := Folding.ofFlags flags
  if f ≠ .none ∧ items.any (SetItem.hasCase f) then
    ⟨f, negated, items.flatMap (SetItem.folded f flags.isUnicode)⟩
  else plainSet flags negated items

inductive CharTest where
  | any (lineEnds : Bool)
  | char (folding : Folding) (negated : Bool) (code : Nat)
  | set (s : CharSet)
  deriving DecidableEq, Repr

namespace CharTest

def holds (c : Char) : CharTest → Bool
  | .any lineEnds => lineEnds || c != '\n'
  | .char folding negated code => (folding.lower c.toNat == code) != negated
  | .set s => s.holds c

/-- The test for one character under flags, or for all others. A letter with kin is a set. -/
def ofChar (flags : Flags) (negated : Bool) (code : Nat) : CharTest :=
  let f := Folding.ofFlags flags
  if f.hasCase code then
    let low := f.lower code
    match f, Text.lowerKin low with
    | .unicode, _ :: _ :: _ => .set ⟨f, negated, (Text.lowerKin low).map fun c => .range c c⟩
    | _, _ => .char f negated low
  else .char .none negated code

def code? : CharTest → Option Nat
  | .char .none false code => some code
  | _ => none

def isFoldedSet : CharTest → Bool
  | .set s => s.folding != .none
  | _ => false

end CharTest

end Gesture.Regex
