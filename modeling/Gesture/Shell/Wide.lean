import Gesture.Shell.Glob
import Gesture.Text.Case
import Gesture.Text.Digit
import Gesture.Text.Letter
import Gesture.Text.Printable

namespace Gesture.Shell.Wide

/-- Whether the upper case of a small letter is several characters, so that it stays as it is. -/
def growsInUpperCase (code : Nat) : Bool :=
  [0xDF, 0x149, 0x1F0, 0x390, 0x3B0, 0x587].contains code ||
    (decide (0x1E96 ≤ code) && decide (code ≤ 0x1E9A)) ||
    (decide (0xFB00 ≤ code) && decide (code ≤ 0xFB17))

def upper (c : Char) : Char :=
  if c.toNat < 0x80 then c.toUpper
  else if growsInUpperCase c.toNat then c
  else Char.ofNat (Text.upperCode c.toNat)

def lower (c : Char) : Char :=
  if c.toNat < 0x80 then c.toLower else Char.ofNat (Text.lowerCode c.toNat)

def same (a b : Char) : Bool :=
  a == b || lower a == lower b || upper a == upper b

def isSpace (c : Char) : Bool :=
  let n := c.toNat
  c == ' ' || (decide ('\t' ≤ c) && decide (c ≤ '\r')) || n == 0x1680 ||
    (decide (0x2000 ≤ n) && decide (n ≤ 0x200A) && n != 0x2007) ||
    n == 0x2028 || n == 0x2029 || n == 0x205F || n == 0x3000

def isAlpha (c : Char) : Bool :=
  Text.isLetter c.toNat || (Text.isDigit c && !c.isDigit)

def isGraph (c : Char) : Bool :=
  if c.toNat < 0x80 then decide ('!' ≤ c) && decide (c ≤ '~')
  else [0xA0, 0x2007, 0x202F].contains c.toNat || (Text.isPrintable c && !isSpace c)

def isIn (name : String) (c : Char) : Bool :=
  if c.toNat < 0x80 then ((Glob.classOf? name).map (· c)).getD false
  else
    match name with
    | "alpha" | "alnum" => isAlpha c
    | "blank" => isSpace c && c.toNat != 0x2028 && c.toNat != 0x2029
    | "cntrl" => c.toNat < 0xA0 || c.toNat == 0x2028 || c.toNat == 0x2029
    | "graph" => isGraph c
    | "lower" => upper c != c
    | "print" => isGraph c || (isSpace c && c.toNat != 0x2028 && c.toNat != 0x2029)
    | "punct" => isGraph c && !isAlpha c
    | "space" => isSpace c
    | "upper" => lower c != c
    | _ => false

def isWord (c : Char) : Bool :=
  c == '_' || isIn "alnum" c

end Gesture.Shell.Wide
