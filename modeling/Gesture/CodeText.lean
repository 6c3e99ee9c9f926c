import Gesture.Text.Quoted

namespace Gesture

/-- A character, or half of a surrogate pair without its other half. -/
inductive CodePoint where
  | char (c : Char)
  | half (offset : Fin 0x800)
  deriving DecidableEq, Repr

namespace CodePoint

def code : CodePoint → Nat
  | .char c => c.toNat
  | .half offset => 0xD800 + offset

def ofUnit (unit : Nat) : CodePoint :=
  if h : 0xD800 ≤ unit ∧ unit < 0xE000 then .half ⟨unit - 0xD800, by omega⟩
  else .char (Char.ofNat unit)

def isHigh : CodePoint → Bool
  | .char _ => false
  | .half offset => decide (offset.val < 0x400)

def isLow : CodePoint → Bool
  | .char _ => false
  | .half offset => decide (0x400 ≤ offset.val)

/-- Whether the point is a half that has no bytes in the name of a file. The halves from `0xDC80` to
    `0xDCFF` stand for bytes that are no text. -/
def isStray : CodePoint → Bool
  | .char _ => false
  | .half offset => decide (offset.val < 0x480) || decide (0x500 ≤ offset.val)

def size : CodePoint → Nat
  | .char c => c.utf8Size
  | .half _ => 1

def char? : CodePoint → Option Char
  | .char c => some c
  | .half _ => none

def escape (p : CodePoint) : List Char :=
  Text.codeEscape p.code

end CodePoint

/-- A text that may hold halves of surrogate pairs. -/
abbrev CodeText := List CodePoint

namespace CodeText

def ofString (text : String) : CodeText :=
  text.toList.map .char

instance : Coe String CodeText := ⟨ofString⟩

def shown (text : CodeText) : String :=
  String.ofList (text.flatMap fun p => (p.char?.map ([·])).getD p.escape)

def quote (text : CodeText) : List Char :=
  let mark := Text.quoteMark (text.filterMap CodePoint.char?)
  mark :: text.flatMap (fun p => (p.char?.map (Text.quoteChar mark)).getD p.escape) ++ [mark]

def quoted (text : CodeText) : String :=
  String.ofList text.quote

def size (text : CodeText) : Nat :=
  text.foldl (fun bytes p => bytes + p.size) 0

/-- Where a text has a point without bytes, and how many halves there are from there on. -/
structure Stray where
  first : CodePoint
  position : Nat
  count : Nat
  deriving DecidableEq, Repr

def Stray.message (s : Stray) : String :=
  let place :=
    if s.count = 1 then " '" ++ String.ofList s.first.escape ++ "' in position " ++ toString s.position
    else
      "s in position " ++ toString s.position ++ "-" ++ toString (s.position + s.count - 1)
  "'utf-8' codec can't encode character" ++ place ++ ": surrogates not allowed"

def stray? (text : CodeText) : Option Stray :=
  match text.dropWhile (!·.isStray) with
  | [] => none
  | first :: rest =>
    some ⟨first, (text.takeWhile (!·.isStray)).length,
      ((first :: rest).takeWhile (·.char?.isNone)).length⟩

end CodeText

end Gesture
