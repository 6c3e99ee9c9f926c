import Gesture.CodeText
import Gesture.Regex.Machine

namespace Gesture

abbrev Regex := Regex.Program

namespace Regex

def textOfPoints : CodeText → List Char
  | .char '\\' :: .char c :: rest => '\\' :: c :: textOfPoints rest
  | .char '\\' :: .half offset :: rest => (CodePoint.half offset).escape ++ textOfPoints rest
  | .char c :: rest => c :: textOfPoints rest
  | .half offset :: rest => (CodePoint.half offset).escape ++ textOfPoints rest
  | [] => []

def textOf (pattern : CodeText) : String :=
  String.ofList (textOfPoints pattern)

def compile (pattern : String) : Except Error Regex := do
  Program.ofExpression (← parse pattern.toList)

def depth (pattern : String) : Nat :=
  (read pattern.toList).1

def search (r : Regex) (text : String) : Except Error Bool :=
  Program.search r text.toList

end Regex

end Gesture
