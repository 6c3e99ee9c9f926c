import Gesture.Token

namespace Gesture

structure Event where
  button : Button
  edge : Edge
  elapsed : Int := 0
  deriving DecidableEq, Repr

namespace Event

def token (e : Event) : Token :=
  e.button.token e.edge

def held (events : List Event) : List Button :=
  events.foldl (fun down e => e.edge.apply down e.button) []

def heldReleases (events : List Event) : List Token :=
  (held events).map (·.token .release)

end Event

end Gesture
