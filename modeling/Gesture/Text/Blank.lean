
namespace Gesture.Text

/-- Blanks of every script: tabs and line ends, the information separators, and all space, line and
    paragraph separators. -/
def isBlankCode (code : Nat) : Bool :=
  (decide (0x09 ≤ code) && decide (code ≤ 0x0D)) ||
  (decide (0x1C ≤ code) && decide (code ≤ 0x20)) ||
  code == 0x85 || code == 0xA0 || code == 0x1680 ||
  (decide (0x2000 ≤ code) && decide (code ≤ 0x200A)) ||
  code == 0x2028 || code == 0x2029 || code == 0x202F || code == 0x205F || code == 0x3000

def isBlank (c : Char) : Bool :=
  isBlankCode c.toNat

def strip (text : List Char) : List Char :=
  ((text.dropWhile isBlank).reverse.dropWhile isBlank).reverse

def wordsAfter (current : List Char) : List Char → List (List Char)
  | [] => if current.isEmpty then [] else [current.reverse]
  | c :: rest =>
    if isBlank c then
      if current.isEmpty then wordsAfter [] rest else current.reverse :: wordsAfter [] rest
    else wordsAfter (c :: current) rest

def words (text : List Char) : List (List Char) :=
  wordsAfter [] text

/-- The pieces of a text between the occurrences of a separator. There is always at least one. -/
def splitAt {α : Type} [DecidableEq α] (separator : α) : List α → List (List α)
  | [] => [[]]
  | c :: rest =>
    if c = separator then [] :: splitAt separator rest
    else
      match splitAt separator rest with
      | [] => [[c]]
      | piece :: pieces => (c :: piece) :: pieces

end Gesture.Text
