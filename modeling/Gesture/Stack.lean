import Gesture.Json
import Gesture.Pattern.Outline

namespace Gesture

/-- How deep JSON texts, patterns and expressions may nest before reading them takes more of the
    stack than there is left, and likewise the literal forms of values and the short forms that are
    written. What a level takes can differ from text to text, but there is always room for two levels
    of JSON, as many as settings have. -/
structure Stack where
  json : List Char → Nat
  literal : Json → Nat
  pattern : String → Nat
  regex : String → Nat
  shortForm : List Token → Nat
  two_le_json (text : List Char) : 2 ≤ json text

namespace Stack

/-- A stack with room for some frames. A level of JSON, of a pattern or of a short form takes one of
    them, and a group of an expression two. -/
def ofFrames (frames : Nat) : Stack :=
  ⟨fun _ => frames + 2, fun _ => frames, fun _ => frames, fun _ => frames / 2, fun _ => frames, fun _ => by omega⟩

def overrunsShortForm (stack : Stack) (tokens : List Token) : Bool :=
  decide (stack.shortForm tokens < (Outline.ofTokens tokens).depth)

end Stack

end Gesture
