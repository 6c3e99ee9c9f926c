import Gesture.Text.Case.Table

namespace Gesture.Text

def lowerCode (code : Nat) : Nat :=
  if code < 0x80 then
    if 0x41 ≤ code ∧ code ≤ 0x5A then code + 0x20 else code
  else
    match caseRuns.find? (·.holds code) with
    | some run => run.other code
    | none => code

def upperCode (code : Nat) : Nat :=
  match upperCaseRuns.find? (·.holds code) with
  | some run => run.other code
  | none => code

def hasCaseBetween (low high : Nat) : Bool :=
  caseRuns.any (·.meets low high) || upperCaseRuns.any (·.meets low high)

def isCased (c : Char) : Bool :=
  casedRanges.holds c.toNat

def isCaseIgnorable (c : Char) : Bool :=
  caseIgnorableRanges.holds c.toNat

def startsCased (cs : List Char) : Bool :=
  match cs.dropWhile isCaseIgnorable with
  | [] => false
  | c :: _ => isCased c

def lowerChar (before : List Char) (c : Char) (after : List Char) : List Char :=
  if c = 'İ' then ['i', '\u0307']
  else if c = 'Σ' then [if startsCased before && !startsCased after then 'ς' else 'σ']
  else [Char.ofNat (lowerCode c.toNat)]

def lowerAfter (before : List Char) : List Char → List Char
  | [] => []
  | c :: rest => lowerChar before c rest ++ lowerAfter (c :: before) rest

def lower (text : List Char) : List Char :=
  lowerAfter [] text

def uppersOf (code : Nat) : List Nat :=
  caseRuns.filterMap fun run =>
    let upper := run.first + (code - run.partner)
    if decide (run.partner ≤ code) && run.holds upper then some upper else none

/-- The lower-case letters, `low` among them, whose upper case is that of the lower-case letter
    `low`. -/
def lowerKin (low : Nat) : List Nat :=
  low :: (sharedUpperCase.lookup low).getD []

def sameLetter (a b : Nat) : Bool :=
  a == b || (lowerKin (lowerCode a)).contains (lowerCode b)

/-- Whether a code point from `low` to `high` equals the lower-case letter `code` without regard to
    case. -/
def sameLetterBetween (low high code : Nat) : Bool :=
  (lowerKin code).any fun kin =>
    (kin :: uppersOf kin).any fun c => decide (low ≤ c) && decide (c ≤ high)

end Gesture.Text
