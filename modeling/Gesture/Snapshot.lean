import Gesture.Action.Condition
import Gesture.Host

namespace Gesture

inductive Note where
  | asked (q : Query)
  | failed (q : Query)
  deriving DecidableEq, Repr

/-- What is known of the host so far, and how it came to be known. A snapshot belongs to the cycle
    that begins when `received` reports have been received. -/
structure Snapshot where
  received : Nat := 0
  locked : Option Bool := none
  foreground : Option (Reply (Option String)) := none
  title : Option (Reply (Option String)) := none
  notes : List Note := []
  deriving DecidableEq, Repr

namespace Snapshot

def asked (s : Snapshot) : Nat :=
  s.notes.countP fun
    | .asked _ => true
    | .failed _ => false

def moment (s : Snapshot) (time : Rat) : Moment :=
  ⟨time, s.received, s.asked⟩

def notesOn {α : Type} (q : Query) : Reply α → List Note
  | .answered _ => [.asked q]
  | .failed => [.asked q, .failed q]

def askLocked (host : Host) (time : Rat) (s : Snapshot) : Bool × Snapshot :=
  match s.locked with
  | some locked => (locked, s)
  | none =>
    let reply := host.locked (s.moment time)
    let locked :=
      match reply with
      | .answered locked => locked
      | .failed => false
    (locked, { s with locked := some locked, notes := s.notes ++ notesOn .locked reply })

def askForeground (host : Host) (time : Rat) (s : Snapshot) :
    Reply (Option String) × Snapshot :=
  match s.foreground with
  | some reply => (reply, s)
  | none =>
    let reply := host.foreground (s.moment time)
    (reply, { s with foreground := some reply, notes := s.notes ++ notesOn .foreground reply })

def askTitle (host : Host) (time : Rat) (s : Snapshot) : Reply (Option String) × Snapshot :=
  match s.title with
  | some reply => (reply, s)
  | none =>
    let reply := host.title (s.moment time)
    (reply, { s with title := some reply, notes := s.notes ++ notesOn .title reply })

def textMatches (regex : String) : Reply (Option String) → Except Regex.Error Bool
  | .answered (some text) => do (← Regex.compile regex).search text
  -- Without a text the expression is not looked at.
  | .answered none | .failed => .ok false

def windowIs (wanted : Bool) : Reply (Option String) → Bool
  | .answered command => command.isSome == wanted
  | .failed => false

/-- Whether a condition holds, and the snapshot after finding out. `android` is the expression for
    commands of the Android layer. -/
def evaluate (host : Host) (android : String) (time : Rat) (s : Snapshot) :
    Condition → Except Regex.Error Bool × Snapshot
  | .always => (.ok true, s)
  | .locked =>
    let (locked, s) := s.askLocked host time
    (.ok locked, s)
  | .unlocked =>
    let (locked, s) := s.askLocked host time
    (.ok !locked, s)
  | .home =>
    let (locked, s) := s.askLocked host time
    if locked then (.ok false, s)
    else
      let (reply, s) := s.askForeground host time
      (.ok (windowIs false reply), s)
  | .noApp =>
    let (reply, s) := s.askForeground host time
    (.ok (windowIs false reply), s)
  | .anyApp =>
    let (reply, s) := s.askForeground host time
    (.ok (windowIs true reply), s)
  | .android =>
    let (reply, s) := s.askForeground host time
    (textMatches android reply, s)
  | .app regex =>
    let (reply, s) := s.askForeground host time
    (textMatches regex reply, s)
  | .title regex =>
    let (reply, s) := s.askTitle host time
    (textMatches regex reply, s)

end Snapshot

def defaultAndroidPattern : String := "^/system/|alien"

end Gesture
