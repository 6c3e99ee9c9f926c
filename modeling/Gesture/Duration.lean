import Gesture.Binary64.Decimal
import Gesture.Text.Digit
import Gesture.Text.Quoted

namespace Gesture

structure Duration where
  micros : Int
  low : -86399999913600000000 ≤ micros := by decide
  high : micros < 86400000000000000000 := by decide
  deriving DecidableEq, Repr

namespace Duration

def ofMicros? (micros : Int) : Option Duration :=
  if h : -86399999913600000000 ≤ micros ∧ micros < 86400000000000000000 then
    some ⟨micros, h.1, h.2⟩
  else none

theorem micros_of_ofMicros? {n : Int} {d : Duration} (h : ofMicros? n = some d) : d.micros = n := by
  unfold ofMicros? at h
  split at h
  · cases h; rfl
  · cases h

def ofMillis? (millis : Int) : Option Duration :=
  ofMicros? (millis * 1000)

def ofParts? (days seconds micros : Int) : Option Duration :=
  ofMicros? ((days * 86400 + seconds) * 1000000 + micros)

def microsPerDay : Int := 86400000000

def days (d : Duration) : Int :=
  Int.fdiv d.micros microsPerDay

def seconds (d : Duration) : Int :=
  Int.fdiv (Int.fmod d.micros microsPerDay) 1000000

def lastMicros (d : Duration) : Int :=
  Int.fmod d.micros 1000000

def inUnits (d : Duration) (unit : Nat) : Binary64 :=
  Binary64.ofRatio (decide (d.micros < 0)) d.micros.natAbs unit

/-- The length in milliseconds: the nearest floating-point number, rounded to an integer. -/
def toMillis (d : Duration) : Int :=
  ((d.inUnits 1000).round?).getD 0

inductive TimeUnit where
  | micro
  | milli
  | second
  | minute
  | hour
  deriving DecidableEq, Repr

def TimeUnit.micros : TimeUnit → Nat
  | .micro => 1
  | .milli => 1000
  | .second => 1000000
  | .minute => 60000000
  | .hour => 3600000000

def unitAt? : List Char → Option (TimeUnit × List Char)
  | 'm' :: 's' :: rest => some (.milli, rest)
  | 'u' :: 's' :: rest => some (.micro, rest)
  | 's' :: rest => some (.second, rest)
  | 'm' :: rest => some (.minute, rest)
  | 'h' :: rest => some (.hour, rest)
  | _ => none

theorem length_of_unitAt? {text rest : List Char} {u : TimeUnit}
    (h : unitAt? text = some (u, rest)) :
    rest.length < text.length := by
  unfold unitAt? at h
  split at h <;> cases h <;> simp only [List.length_cons] <;> omega

structure Part where
  whole : List Char
  fraction : List Char
  unit : TimeUnit
  deriving DecidableEq, Repr

def partAt? (text : List Char) : Option (Part × List Char) :=
  let whole := text.takeWhile Text.isDigit
  if whole.isEmpty then none
  else
    match text.dropWhile Text.isDigit with
    | '.' :: more =>
      (unitAt? (more.dropWhile Text.isDigit)).map fun p =>
        (⟨whole, more.takeWhile Text.isDigit, p.1⟩, p.2)
    | after => (unitAt? after).map fun p => (⟨whole, [], p.1⟩, p.2)

theorem length_of_partAt? {text rest : List Char} {p : Part} (h : partAt? text = some (p, rest)) :
    rest.length < text.length := by
  have shorter := (List.dropWhile_sublist Text.isDigit (l := text)).length_le
  simp only [partAt?] at h
  split at h
  · cases h
  · split at h
    · next more point =>
      obtain ⟨⟨u, after⟩, found, same⟩ := Option.map_eq_some_iff.mp h
      cases same
      have := length_of_unitAt? found
      have := (List.dropWhile_sublist Text.isDigit (l := more)).length_le
      rw [point, List.length_cons] at shorter
      dsimp only
      omega
    · obtain ⟨⟨u, after⟩, found, same⟩ := Option.map_eq_some_iff.mp h
      cases same
      have := length_of_unitAt? found
      dsimp only
      omega

inductive Error where
  | empty
  | invalid (text : String) (position : Nat)
  | outOfRange
  deriving DecidableEq, Repr

def Error.message : Error → String
  | .empty => "Empty duration string"
  | .invalid text position =>
    "Invalid duration string " ++ Text.quoted text ++
    "; expected number and unit at position " ++ toString position
  | .outOfRange => "duration out of range"

def inRange (micros : Int) : Except Error Duration :=
  match ofMicros? micros with
  | some d => .ok d
  | none => .error .outOfRange

def Part.length (p : Part) : Except Error Int := do
  let digits := Text.decimalValue (p.whole ++ p.fraction)
  let scale := Nat.pow 10 p.fraction.length
  let common := Nat.gcd digits scale
  -- The unit times the numerator has to be in range before it is divided.
  let product ← inRange ((p.unit.micros * (digits / common) : Nat) : Int)
  return roundDivInt product.micros (scale / common)

def addParts (whole : List Char) (total : Duration) (text : List Char) : Except Error Duration :=
  match text with
  | [] => .ok total
  | c :: rest =>
    match h : partAt? (c :: rest) with
    | none => .error (.invalid (String.ofList whole) (whole.length - (rest.length + 1)))
    | some (part, after) => do
      let length ← part.length
      let total ← inRange (total.micros + length)
      addParts whole total after
termination_by text.length
decreasing_by exact length_of_partAt? h

def splitSign : List Char → Bool × List Char
  | '-' :: rest => (true, rest)
  | '+' :: rest => (false, rest)
  | text => (false, text)

def parse (text : String) : Except Error Duration :=
  let (negative, body) := splitSign text.toList
  if body.isEmpty then .error .empty
  else if body = ['0'] then .ok ⟨0, by decide, by decide⟩
  else do
    let total ← addParts body ⟨0, by decide, by decide⟩ body
    inRange (if negative then -total.micros else total.micros)

def numberText (x : Binary64) : List Char :=
  match x.toInt? with
  | some n => if n < 0 then '-' :: Binary64.digitsOf n.natAbs else Binary64.digitsOf n.natAbs
  | none => x.chars

def magnitudeText (micros : Nat) : List Char :=
  if micros < 1000 then Binary64.digitsOf micros ++ ['u', 's']
  else if micros < 1000000 then
    numberText (Binary64.ofRatio false micros 1000) ++ ['m', 's']
  else numberText (Binary64.ofRatio false micros 1000000) ++ ['s']

def chars (d : Duration) : List Char :=
  if d.micros = 0 then ['0']
  else if d.micros < 0 then '-' :: magnitudeText d.micros.natAbs
  else magnitudeText d.micros.natAbs

def text (d : Duration) : String :=
  String.ofList d.chars

end Duration

end Gesture
