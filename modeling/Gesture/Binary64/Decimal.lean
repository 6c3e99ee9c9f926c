import Gesture.Binary64

namespace Gesture.Binary64

def digitCount (n : Nat) : Nat :=
  if h : n < 10 then 1 else digitCount (n / 10) + 1
termination_by n
decreasing_by omega

structure Decimal where
  digits : Nat
  exponent : Int
  deriving DecidableEq, Repr

namespace Decimal

def num (d : Decimal) : Nat :=
  d.digits * Nat.pow 10 d.exponent.toNat

def den (d : Decimal) : Nat :=
  Nat.pow 10 (-d.exponent).toNat

def units (d : Decimal) : Nat :=
  nearest (d.num * one) d.den

/-- The number nearest to the decimal. Magnitudes that are out of reach are not worked out. -/
def value (negative : Bool) (d : Decimal) : Binary64 :=
  if d.digits = 0 then .finite negative 0
  else
    let magnitude := (digitCount d.digits : Int) + d.exponent
    if magnitude > 310 then .infinite negative
    else if magnitude < -330 then .finite negative 0
    else ofRatio negative d.num d.den

/-- The distance between a decimal and a count of units, times `10 ^ 400` or so: only distances on
    one grid are compared. -/
def distance (d : Decimal) (units : Nat) : Nat :=
  ((d.num * one : Int) - (units * d.den : Int)).natAbs

end Decimal

def leadingExponent (units : Nat) : Int :=
  (digitCount (units * Nat.pow 10 330 / one) : Int) - 331

/-- Of the two neighbours of a count of units on the decimal grid `10 ^ exponent`, the nearer one
    that reads back to it. -/
def onGrid? (units : Nat) (exponent : Int) : Option Decimal :=
  let step : Decimal := ⟨1, exponent⟩
  let below := units * step.den / (step.num * one)
  let low : Decimal := ⟨below, exponent⟩
  let high : Decimal := ⟨below + 1, exponent⟩
  let lowHit := low.units == units
  let highHit := high.units == units
  if lowHit && highHit then
    let lowFar := low.distance units
    let highFar := high.distance units
    if lowFar < highFar then some low
    else if highFar < lowFar then some high
    else some (if below % 2 = 0 then low else high)
  else if lowHit then some low
  else if highHit then some high
  else none

def shortestFrom (hits : Int → Option Decimal) (lead : Int) (count : Nat) : Nat → Decimal
  | 0 => ⟨0, 0⟩
  | more + 1 =>
    match hits (lead - count + 1) with
    | some d => d
    | none => shortestFrom hits lead (count + 1) more

def shortest (units : Nat) : Decimal :=
  -- Seventeen digits always suffice.
  shortestFrom (onGrid? units) (leadingExponent units) 1 17

def digitsOf (n : Nat) : List Char :=
  if h : n < 10 then [Char.ofNat (0x30 + n)]
  else digitsOf (n / 10) ++ [Char.ofNat (0x30 + n % 10)]
termination_by n
decreasing_by omega

def dropTrailingZeros (digits : List Char) : List Char :=
  match (digits.reverse.dropWhile (· == '0')).reverse with
  | [] => ['0']
  | kept => kept

def exponentText (e : Int) : List Char :=
  let digits := digitsOf e.natAbs
  'e' :: (if e < 0 then '-' else '+') :: (if digits.length < 2 then '0' :: digits else digits)

def layout (digits : List Char) (lead : Int) : List Char :=
  if lead < -4 ∨ 16 ≤ lead then
    match digits with
    | [] => exponentText lead
    | [d] => d :: exponentText lead
    | d :: rest => d :: '.' :: rest ++ exponentText lead
  else if lead < 0 then
    '0' :: '.' :: List.replicate (-lead - 1).toNat '0' ++ digits
  else
    let whole := lead.toNat + 1
    let padded := digits ++ List.replicate (whole - digits.length) '0'
    padded.take whole ++ '.' ::
      (match padded.drop whole with
      | [] => ['0']
      | fraction => fraction)

def unitsText (units : Nat) : List Char :=
  if units = 0 then ['0', '.', '0']
  else
    let d := shortest units
    let digits := digitsOf d.digits
    layout (dropTrailingZeros digits) (d.exponent + digits.length - 1)

def chars : Binary64 → List Char
  | .finite n u => if n then '-' :: unitsText u else unitsText u
  | .infinite n => if n then ['-', 'i', 'n', 'f'] else ['i', 'n', 'f']
  | .nan => ['n', 'a', 'n']

def text (x : Binary64) : String :=
  String.ofList x.chars

end Gesture.Binary64
