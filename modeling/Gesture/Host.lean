import Gesture.Log

namespace Gesture

inductive Query where
  | locked
  | foreground
  | title
  deriving DecidableEq, Repr

namespace Query

def name : Query → String
  | .locked => "locked"
  | .foreground => "foreground"
  | .title => "title"

def warning : Query → LogLine
  | .locked => ⟨.warning, "Unable to query screen lock; assuming unlocked", none⟩
  | .foreground => ⟨.warning, "Unable to query foreground window", none⟩
  | .title => ⟨.warning, "Unable to query window title", none⟩

end Query

inductive Reply (α : Type) where
  | answered (a : α)
  | failed
  deriving DecidableEq, Repr

/-- When a query is made: the time in milliseconds, how many reports have been received by then, and
    how many queries came before it in the same cycle. -/
structure Moment where
  instant : Rat
  received : Nat
  asked : Nat
  deriving DecidableEq, Repr

def Moment.clock (m : Moment) : Int :=
  m.instant.floor

/-- A host, by what it answers at any moment. The foreground command and the title are missing if
    there is no window. -/
structure Host where
  locked : Moment → Reply Bool
  foreground : Moment → Reply (Option String)
  title : Moment → Reply (Option String)

end Gesture
