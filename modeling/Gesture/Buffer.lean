import Gesture.Event
import Gesture.Pattern.Outline

namespace Gesture

/-- Evidence that an edge was lost: a press of a button that is down, or a release of one that is
    up. All events up to and including this one are abandoned. -/
structure LostEdge where
  button : Button
  edge : Edge
  abandoned : Nat
  deriving DecidableEq, Repr

def LostEdge.message (lost : LostEdge) : String :=
  lost.button.displayName ++ ": " ++
  (match lost.edge with
  | .press => "press without release"
  | .release => "release without press") ++
  "; abandoning " ++ toString lost.abandoned ++ " buffered events"

/-- What trimming knows after reading some events: how many they were, which of them are live, which
    buttons the live ones leave down, and what was lost. -/
structure Scan where
  seen : Nat := 0
  live : List Event := []
  down : List Button := []
  lost : List LostEdge := []
  deriving DecidableEq, Repr

namespace Scan

def step (maxMillis : Int) (s : Scan) (e : Event) : Scan :=
  -- With no button down, a silence longer than `maxMillis` makes the event the first live one.
  let live := if s.down.isEmpty && decide (maxMillis < e.elapsed) then [] else s.live
  match e.edge, s.down.contains e.button with
  | .press, false => ⟨s.seen + 1, live ++ [e], s.down ++ [e.button], s.lost⟩
  | .release, true => ⟨s.seen + 1, live ++ [e], s.down.erase e.button, s.lost⟩
  -- The edge does not fit what is down, so that an edge before it was lost.
  | edge, _ => ⟨s.seen + 1, [], [], s.lost ++ [⟨e.button, edge, s.seen + 1⟩]⟩

def ofEvents (maxMillis : Int) (events : List Event) : Scan :=
  events.foldl (step maxMillis) {}

end Scan

def trim (maxMillis : Int) (events : List Event) : List Event :=
  (Scan.ofEvents maxMillis events).live

def trimLost (maxMillis : Int) (events : List Event) : List LostEdge :=
  (Scan.ofEvents maxMillis events).lost

def trimPoint (maxMillis : Int) (events : List Event) : Nat :=
  events.length - (trim maxMillis events).length

/-- Whether three events are chatter: one button pressed, released and pressed again, with neither
    gap longer than `maxMillis`. -/
def isChatter (maxMillis : Int) (first middle last : Event) : Bool :=
  first.button == middle.button && middle.button == last.button &&
  first.edge == .press && middle.edge == .release && last.edge == .press &&
  decide (middle.elapsed ≤ maxMillis) && decide (last.elapsed ≤ maxMillis)

def debounce (maxMillis : Int) : List Event → List Event
  | a :: b :: c :: rest =>
    -- The second press may itself begin chatter, so it is judged before it goes.
    if isChatter maxMillis a b c then a :: (debounce maxMillis (c :: rest)).tail
    else a :: debounce maxMillis (b :: c :: rest)
  | short => short

/-- Recent events under two thresholds: the silence that ends a gesture, and the gap up to which
    edges count as chatter. -/
structure Buffer where
  maxMillis : Int := 350
  chatterMillis : Int := 10
  events : List Event := []
  deriving DecidableEq, Repr

namespace Buffer

def append (b : Buffer) (e : Event) : Buffer :=
  -- A press can turn the edges before it into chatter, so both look at the whole buffer.
  { b with events := debounce b.chatterMillis (trim b.maxMillis (b.events ++ [e])) }

def appendLost (b : Buffer) (e : Event) : List LostEdge :=
  trimLost b.maxMillis (b.events ++ [e])

def extend (b : Buffer) (events : List Event) : Buffer :=
  events.foldl append b

def extendLost (b : Buffer) : List Event → List LostEdge
  | [] => []
  | e :: rest => b.appendLost e ++ (b.append e).extendLost rest

def clear (b : Buffer) : Buffer :=
  { b with events := [] }

def tokens (b : Buffer) : List Token :=
  b.events.map (·.token)

def condensed (b : Buffer) : String :=
  Token.condense b.tokens

def heldReleases (b : Buffer) : List Token :=
  Event.heldReleases b.events

end Buffer

end Gesture
