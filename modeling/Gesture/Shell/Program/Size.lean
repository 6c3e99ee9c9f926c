import Gesture.Shell.Program.Basic

namespace Gesture.Shell.Program

inductive SizeError where
  | malformed
  | tooLarge
  | outOfRange
  deriving DecidableEq, Repr

def SizeError.reason : SizeError → String
  | .malformed => ""
  | .tooLarge => ": Value too large for defined data type"
  | .outOfRange => ": Numerical result out of range"

namespace Size

def greatest : Nat := 18446744073709551615

def power? (letter : Char) : Option Nat :=
  match letter with
  | 'k' | 'K' => some 1
  | 'm' | 'M' => some 2
  | 'g' | 'G' => some 3
  | 't' | 'T' => some 4
  | 'P' => some 5
  | 'E' => some 6
  | 'Z' => some 7
  | 'Y' => some 8
  | _ => none

/-- What a unit stands for, and what comes after it. Only some letters may be units; if one of them
    is a zero, the units that are powers may be told in thousands. -/
def unit? (units : String) (text : Bytes) : Option (Nat × Bytes) :=
  match text with
  | [] => some (1, [])
  | letter :: rest =>
    if !units.toList.contains letter then none
    else
      match letter, power? letter with
      | 'b', _ => some (512, rest)
      | 'B', _ => some (1024, rest)
      | 'c', _ => some (1, rest)
      | 'w', _ => some (2, rest)
      | _, none => none
      | _, some power =>
        match units.toList.contains '0', rest with
        | true, 'i' :: 'B' :: more => some (Nat.pow 1024 power, more)
        | true, 'B' :: more => some (Nat.pow 1000 power, more)
        | true, 'D' :: more => some (Nat.pow 1000 power, more)
        | _, _ => some (Nat.pow 1024 power, rest)

def ofText (units : String) (text : Bytes) : Except SizeError Nat := do
  let body := text.dropWhile Number.isBlank
  let plain := match body with
    | '+' :: rest => rest
    | rest => rest
  let digits := plain.takeWhile Char.isDigit
  let (n, rest) ←
    if digits.isEmpty then
      if body.isEmpty || !units.toList.contains (text.headD ' ') then .error .malformed
      else .ok (1, text)
    else .ok (Text.decimalValue digits, plain.drop digits.length)
  match unit? units rest with
  | none => .error .malformed
  | some (unit, after) =>
    if !after.isEmpty then .error .malformed
    else if greatest < n * unit then .error .tooLarge
    else .ok (n * unit)

def between (least most : Nat) (units : String) (text : Bytes) : Except SizeError Nat := do
  let n ← ofText units text
  if n < least || most < n then
    .error (if n ≤ 1073741823 then .outOfRange else .tooLarge)
  else .ok n

def integer (least most : Int) (text : Bytes) : Except SizeError Int := do
  let body := text.dropWhile Number.isBlank
  let (negative, digits) := match body with
    | '-' :: rest => (true, rest)
    | '+' :: rest => (false, rest)
    | rest => (false, rest)
  if digits.isEmpty || !digits.all Char.isDigit then .error .malformed
  else
    let size := Text.decimalValue digits
    let n : Int := if negative then -(size : Int) else size
    if n < least || most < n then
      .error (if size ≤ 1073741823 then .outOfRange else .tooLarge)
    else .ok n

end Size

def sizeFor (what units : String) (text : Bytes) (go : Nat → Run Nat) : Run Nat := do
  match Size.ofText units text with
  | .ok n => go n
  | .error e => refuse 1 (what ++ ": " ++ inRoundQuotes text ++ e.reason)

def byteUnits : String := "bkKmMGTPEZY0"

def digitLetters : String := "0::1::2::3::4::5::6::7::8::9::"

def withDigits (letter : Char) (l : Char × Bytes) : Char × Bytes :=
  if l.1.isDigit then (letter, l.1 :: l.2) else l

end Gesture.Shell.Program
