import Gesture.Shell.Syntax
import Gesture.Text.Digit

namespace Gesture.Shell.Number

def isBlank (c : Char) : Bool :=
  c == ' ' || c == '\t' || c == '\n' || c == '\x0b' || c == '\x0c' || c == '\r'

/-- A number at the start of a text: its value, what follows it, and whether there is one at all. -/
structure Scanned where
  value : Int
  rest : Bytes
  found : Bool

def baseOf (body : Bytes) : Nat × Bytes :=
  let hexadecimal (digits : Bytes) : Nat × Bytes :=
    match digits with
    | c :: _ => if (Text.hexValue? c).isSome then (16, digits) else (8, body)
    | [] => (8, body)
  match body with
  | '0' :: 'x' :: digits | '0' :: 'X' :: digits => hexadecimal digits
  | '0' :: _ => (8, body)
  | _ => (10, body)

def scan (anyBase : Bool) (text : Bytes) : Scanned :=
  let body := text.dropWhile isBlank
  let (negative, body) := match body with
    | '-' :: rest => (true, rest)
    | '+' :: rest => (false, rest)
    | rest => (false, rest)
  let (base, digits) := if anyBase then baseOf body else (10, body)
  let isDigit (c : Char) : Bool := ((Text.hexValue? c).map (decide <| · < base)).getD false
  let used := digits.takeWhile isDigit
  if used.isEmpty then ⟨0, text, false⟩
  else
    let n := used.foldl (fun n c => n * base + (Text.hexValue? c).getD 0) 0
    ⟨if negative then -(n : Int) else n, digits.drop used.length, true⟩

def greatest : Int := 9223372036854775807

def least : Int := -9223372036854775808

def isOutside (n : Int) : Bool :=
  decide (n < least) || decide (greatest < n)

def clamp (n : Int) : Int :=
  if n < least then least else if greatest < n then greatest else n

def wrap (n : Int) : Int :=
  Int.bmod n 18446744073709551616

def unsigned (n : Int) : Nat :=
  (n % 18446744073709551616).toNat

/-- The number that a text is, but for blanks around it. Where any base is welcome, an empty text is
    zero. -/
def ofText? (anyBase : Bool) (text : Bytes) : Option Int :=
  let s := scan anyBase text
  if isOutside s.value then none
  else if !s.found then if anyBase && text.all isBlank then some 0 else none
  else if s.rest.all isBlank then some s.value
  else none

def shown (n : Int) : Bytes :=
  (toString n).toList

end Gesture.Shell.Number
