import Gesture.Binary64

namespace Gesture.Shell.Program.Awk.Real

def unit : Int := Nat.pow 2 320

def mul (a b : Int) : Int := a * b / unit

def div (a b : Int) : Int := a * unit / b

def ofBinary (x : Binary64) : Int :=
  match x with
  | .finite negative units =>
    let n : Int := (units * unit.toNat / Binary64.one : Nat)
    if negative then -n else n
  | _ => 0

def toBinary (n : Int) : Binary64 :=
  Binary64.ofRatio (decide (n < 0)) n.natAbs unit.toNat

/-- The sum of terms, each made from the one before, until they vanish; `limit` bounds their number. -/
def series (next : Nat → Int → Int) : Nat → Nat → Int → Int → Int
  | 0, _, _, sum => sum
  | limit + 1, i, term, sum =>
    if term = 0 then sum else series next limit (i + 1) (next i term) (sum + term)

def expSmall (x : Int) : Int :=
  series (fun i term => mul term x / (i + 1 : Nat)) 200 0 unit 0

def twiceArtanh (x : Int) : Int :=
  let square := mul x x
  let sum := series
    (fun i term => mul term square * (2 * i + 1 : Nat) / (2 * i + 3 : Nat)) 400 0 x 0
  2 * sum

def logTwo : Int := twiceArtanh (unit / 3)

def log (x : Int) : Int :=
  let shift : Int := (x.toNat.log2 : Int) - 320
  let scaled := if 0 ≤ shift then x / Nat.pow 2 shift.toNat else x * Nat.pow 2 (-shift).toNat
  twiceArtanh (div (scaled - unit) (scaled + unit)) + shift * logTwo

def exp (x : Int) : Int × Int :=
  let count := x / logTwo
  (expSmall (x - count * logTwo), count)

def scaled (n : Int) (power : Int) : Binary64 :=
  if 0 ≤ power then
    if 1100 < power then .infinite (decide (n < 0))
    else Binary64.ofRatio (decide (n < 0)) (n.natAbs * Nat.pow 2 power.toNat) unit.toNat
  else if power < -1200 then .zero
  else Binary64.ofRatio (decide (n < 0)) n.natAbs (unit.toNat * Nat.pow 2 (-power).toNat)

def arctanSmall (x : Int) : Int :=
  /- Halving the angle twice makes the series short. -/
  let root (n : Int) : Int := (Nat.sqrt (n.toNat * unit.toNat) : Nat)
  let half (x : Int) : Int := div x (unit + root (unit + mul x x))
  let y := half (half x)
  let square := mul y y
  let sum := series
    (fun i term => -(mul term square * (2 * i + 1 : Nat) / (2 * i + 3 : Nat))) 400 0 y 0
  4 * sum

def pi : Int := 4 * arctanSmall unit

def arctan (x : Int) : Int :=
  if unit < x then pi / 2 - arctanSmall (div unit x)
  else if x < -unit then -(pi / 2) - arctanSmall (div unit x)
  else arctanSmall x

def angle (y x : Int) : Int :=
  if x = 0 then if y = 0 then 0 else if 0 < y then pi / 2 else -(pi / 2)
  else
    let a := arctan (div y x)
    if 0 < x then a else if 0 ≤ y then a + pi else a - pi

def sin (x : Int) : Int :=
  let x := x % (2 * pi)
  let square := mul x x
  series (fun i term => -(mul term square) / ((2 * i + 2) * (2 * i + 3) : Nat)) 200 0 x 0

def cos (x : Int) : Int := sin (x + pi / 2)

end Gesture.Shell.Program.Awk.Real
