import Gesture.Binary64
import Gesture.Event

namespace Gesture

structure Raw where
  identifier : Identifier
  value : Option Int
  timestamp : Binary64
  deriving DecidableEq, Repr

inductive ElapsedError where
  | infinite
  | notANumber
  deriving DecidableEq, Repr

def ElapsedError.message : ElapsedError → String
  | .infinite => "cannot convert float infinity to integer"
  | .notANumber => "cannot convert float NaN to integer"

/-- The milliseconds between two timestamps, rounded to the nearest integer and never negative. -/
def elapsedBetween (earlier later : Binary64) : Except ElapsedError Int :=
  let exact := (later - earlier) * Binary64.ofInt 1000
  match exact.round?, exact with
  | some n, _ => .ok (max 0 n)
  | none, .nan => .error .notANumber
  | none, _ => .error .infinite

structure Decoder where
  last : Option Binary64 := none
  deriving DecidableEq, Repr

namespace Decoder

def elapsed (d : Decoder) (timestamp : Binary64) : Except ElapsedError Int :=
  match d.last with
  | none => .ok 0
  | some last => elapsedBetween last timestamp

def eventsOf (button : Button) (value : Option Int) (elapsed : Int) : List Event :=
  match value with
  | none => [⟨button, .press, elapsed⟩, ⟨button, .release, elapsed⟩]
  | some level => [⟨button, if level = 0 then .release else .press, elapsed⟩]

def decode (d : Decoder) (raw : Raw) : Except ElapsedError (List Event × Decoder) :=
  match Button.ofIdentifier? raw.identifier with
  | none => .ok ([], d)
  | some button =>
    (d.elapsed raw.timestamp).map fun elapsed =>
      (eventsOf button raw.value elapsed, ⟨some raw.timestamp⟩)

/-- The timestamps of a batch of reports read at `now`: the last gets `now`, and the gaps of the
    batch are kept. -/
def stampBatch (batch : List (Int × Int × Binary64)) (now : Binary64) : List Raw :=
  match batch.getLast? with
  | none => []
  | some last =>
    batch.map fun report =>
      ⟨.code report.1, some report.2.1, now - (last.2.2 - report.2.2)⟩

end Decoder

end Gesture
