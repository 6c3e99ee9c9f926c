import Gesture.Action.Condition
import Gesture.Action.Kind
import Gesture.Pattern.Outline
import Gesture.Token

namespace Gesture

structure Action where
  text : String
  kind : Kind
  pattern : List Token
  condition : Condition
  conditionText : String
  deriving DecidableEq, Repr

namespace Action

def interval? (a : Action) : Option Nat :=
  match a.kind with
  | .repeating interval _ => some interval
  | _ => none

def holdReleases (a : Action) : List Token :=
  (Token.held a.pattern).map .release

def line (a : Action) : String :=
  "action=" ++ a.text ++ "," ++ Token.condense a.pattern ++ "," ++ a.conditionText

/-- Whether an action ranks before another or equal to it: a longer pattern first, then by the text
    of the action and the text of the condition. -/
def ranksBefore (a b : Action) : Bool :=
  if a.pattern.length ≠ b.pattern.length then decide (b.pattern.length < a.pattern.length)
  else if a.text ≠ b.text then decide (a.text < b.text)
  else !decide (b.conditionText < a.conditionText)

end Action

end Gesture
