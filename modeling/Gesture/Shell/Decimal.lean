import Gesture.Binary64.Decimal
import Gesture.Shell.Number

namespace Gesture.Shell.Decimal

open Binary64

def exponent (text : Bytes) : Int × Bytes :=
  match text with
  | e :: rest =>
    if e == 'e' || e == 'E' then
      let s := Number.scan false rest
      let startsWell := match rest with
        | c :: _ => c.isDigit || c == '-' || c == '+'
        | [] => false
      if s.found && startsWell then (s.value, s.rest) else (0, text)
    else (0, text)
  | [] => (0, text)

def special? (negative : Bool) (text : Bytes) : Option (Binary64 × Bytes) :=
  let lower := text.map Char.toLower
  let found := [("infinity", Binary64.infinite negative), ("inf", .infinite negative),
    ("nan", .nan)].find? fun (name, _) => name.toList.isPrefixOf lower
  found.map fun (name, x) => (x, text.drop name.length)

/-- The number that digits with base sixteen write, with a point and a power of two perhaps, and what
    follows it. -/
def hexadecimal? (negative : Bool) (text : Bytes) : Option (Binary64 × Bytes) :=
  let isDigit (c : Char) : Bool := (Text.hexValue? c).isSome
  let whole := text.takeWhile isDigit
  let rest := text.drop whole.length
  let (fraction, after) := match rest with
    | '.' :: more => (more.takeWhile isDigit, more.dropWhile isDigit)
    | _ => ([], rest)
  if whole.isEmpty && fraction.isEmpty then none
  else
    let (power, after) : Int × Bytes := match after with
      | 'p' :: more | 'P' :: more =>
        let (e, rest) := exponent ('e' :: more)
        if rest.length ≤ more.length then (e, rest) else (0, after)
      | _ => (0, after)
    let digits := whole ++ fraction
    let n := digits.foldl (fun n c => n * 16 + (Text.hexValue? c).getD 0) 0
    let power := power - 4 * fraction.length
    let x :=
      if n = 0 then Binary64.finite negative 0
      else if 0 ≤ power then
        if 1100 < power then .infinite negative else ofRatio negative (n * Nat.pow 2 power.toNat) 1
      else if power < -(2000 + 4 * (digits.length : Int)) then .finite negative 0
      else ofRatio negative n (Nat.pow 2 (-power).toNat)
    some (x, after)

def scan? (text : Bytes) : Option (Binary64 × Bytes) :=
  let body := text.dropWhile Number.isBlank
  let (negative, body) := match body with
    | '-' :: rest => (true, rest)
    | '+' :: rest => (false, rest)
    | rest => (false, rest)
  let hexadecimal : Option (Binary64 × Bytes) := match body with
    | '0' :: x :: digits =>
      if x == 'x' || x == 'X' then hexadecimal? negative digits else none
    | _ => none
  let decimal : Option (Binary64 × Bytes) :=
    let whole := body.takeWhile Char.isDigit
    let rest := body.drop whole.length
    let (fraction, after) := match rest with
      | '.' :: more => (more.takeWhile Char.isDigit, more.dropWhile Char.isDigit)
      | _ => ([], rest)
    if whole.isEmpty && fraction.isEmpty then none
    else
      let (e, after) := exponent after
      let digits := Text.decimalValue (whole ++ fraction)
      some (Decimal.value negative ⟨digits, e - fraction.length⟩, after)
  hexadecimal.or (decimal.or (special? negative body))

def unitsOf : Binary64 → Nat
  | .finite _ units => units
  | _ => 0

def withPoint (marked : Bool) (places : Nat) (digits : Bytes) : Bytes :=
  let digits := List.replicate (places + 1 - digits.length) '0' ++ digits
  let whole := digits.take (digits.length - places)
  if places = 0 then if marked then whole ++ ['.'] else whole
  else whole ++ '.' :: digits.drop whole.length

def fixed (marked : Bool) (places units : Nat) : Bytes :=
  withPoint marked places (digitsOf (roundDiv (units * Nat.pow 10 places) one))

/-- The leading digits of a magnitude, `places` of them after the first one, and the exponent of
    the first one. -/
def leading (places units : Nat) : Bytes × Int :=
  if units = 0 then (List.replicate (places + 1) '0', 0)
  else
    let lead := leadingExponent units
    let shift := (places : Int) - lead
    let digits := digitsOf
      (roundDiv (units * Nat.pow 10 shift.toNat) (one * Nat.pow 10 (-shift).toNat))
    if places + 1 < digits.length then (digits.take (places + 1), lead + 1) else (digits, lead)

def scientific (marked : Bool) (places units : Nat) : Bytes :=
  let (digits, lead) := leading places units
  withPoint marked places digits ++ exponentText lead

def trimZeros (text : Bytes) : Bytes :=
  if text.contains '.' then
    let kept := text.reverse.dropWhile (· == '0')
    (match kept with
    | '.' :: rest => rest
    | rest => rest).reverse
  else text

def general (marked : Bool) (significant units : Nat) : Bytes :=
  let count := max significant 1
  let (_, lead) := leading (count - 1) units
  if lead < -4 ∨ (count : Int) ≤ lead then
    let (digits, lead) := leading (count - 1) units
    let mantissa := withPoint marked (count - 1) digits
    (if marked then mantissa else trimZeros mantissa) ++ exponentText lead
  else
    let text := fixed marked ((count : Int) - 1 - lead).toNat units
    if marked then text else trimZeros text

def isNegative : Binary64 → Bool
  | .finite negative _ => negative
  | .infinite negative => negative
  | .nan => false

def magnitude (letter : Char) (marked : Bool) (precision : Nat) (x : Binary64) : Bytes :=
  match x with
  | .infinite _ => "inf".toList
  | .nan => "nan".toList
  | .finite _ units =>
    match letter.toLower with
    | 'e' => scientific marked precision units
    | 'g' => general marked precision units
    | _ => fixed marked precision units

end Gesture.Shell.Decimal
