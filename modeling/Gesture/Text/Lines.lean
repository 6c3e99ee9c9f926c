
namespace Gesture.Text

def isLineEnd (c : Char) : Bool :=
  (decide ('\n' ≤ c) && decide (c ≤ '\r')) ||
  (decide ('\x1c' ≤ c) && decide (c ≤ '\x1e')) ||
  c == '\u0085' || c == '\u2028' || c == '\u2029'

def linesAfter (current : List Char) : List Char → List (List Char)
  | [] => if current.isEmpty then [] else [current.reverse]
  | '\r' :: '\n' :: rest => current.reverse :: linesAfter [] rest
  | c :: rest =>
    if isLineEnd c then current.reverse :: linesAfter [] rest else linesAfter (c :: current) rest

def lines (text : List Char) : List (List Char) :=
  linesAfter [] text

def unifyLineEnds : List Char → List Char
  | [] => []
  | '\r' :: '\n' :: rest => '\n' :: unifyLineEnds rest
  | c :: rest => (if c = '\r' then '\n' else c) :: unifyLineEnds rest

end Gesture.Text
