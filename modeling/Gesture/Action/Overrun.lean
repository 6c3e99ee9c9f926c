import Gesture.Action.Table
import Gesture.Stack

namespace Gesture

def reaches {α : Type} (pass stop : α → Bool) : List α → Bool
  | [] => false
  | x :: rest => stop x || (pass x && reaches pass stop rest)

namespace Action

def Parts.isRefused (parts : Parts) : Bool :=
  match ofParts parts with
  | .error (.refused _) => true
  | _ => false

def Parts.hasPattern (parts : Parts) : Bool :=
  match Grammar.parse parts.pattern with
  | .ok (_ :: _) => true
  | _ => false

/-- Whether reading three texts takes more of the stack than there is. The expression of the
    condition is read last, if the other two texts are well. -/
def Parts.overruns (stack : Stack) (parts : Parts) : Bool :=
  (Kind.parse parts.action).isOk &&
    (decide (stack.pattern parts.pattern < Grammar.depth parts.pattern) ||
      (parts.hasPattern &&
        (Condition.expression? parts.condition).any fun regex =>
          decide (stack.regex regex < Regex.depth regex)))

def lineOverruns (stack : Stack) (line : String) : Bool :=
  let start := "action=".toList
  start.isPrefixOf line.toList &&
    reaches Parts.isRefused (·.overruns stack) (splits (line.toList.drop start.length))

/-- Whether reading the table that a text describes takes more of the stack than there is. -/
def overruns (stack : Stack) (config : String) : Bool :=
  reaches (fun body => (parseLine body).isOk) (lineOverruns stack)
    ((Text.lines config.toList).filterMap body?)

end Action

end Gesture
