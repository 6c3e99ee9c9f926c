import Gesture.Action
import Gesture.Buffer
import Gesture.Decoder
import Gesture.Pattern.Occurrence
import Gesture.Rounding
import Gesture.Snapshot

namespace Gesture

structure Recognizer where
  table : List Action
  host : Host
  android : String := defaultAndroidPattern

namespace Recognizer

inductive Phase where
  | idle
  | evaluating
  | armed
  | fired
  | repeating
  deriving DecidableEq, Repr

/-- What the recognizer waits for besides input. A repeating action was last executed at `last`. -/
inductive Wait where
  | input
  | armed (action : Action) (deadline : Rat)
  | repeating (action : Action) (last : Rat)
  deriving DecidableEq, Repr

inductive Failure where
  | elapsed (error : ElapsedError)
  | regex (error : Regex.Error)
  | waitTooLong
  | waitNegative
  | intervalTooLong
  deriving DecidableEq, Repr

/-- The state of a recognizer. The events in `pending` were handed back and not yet taken up; so many
    reports have been received. -/
structure State where
  wait : Wait := .input
  phase : Phase := .idle
  buffer : Buffer := {}
  decoder : Decoder := {}
  owed : List Token := []
  pending : List Event := []
  received : Nat := 0
  deriving DecidableEq, Repr

/-- What a run shows. When events are recorded it shows them, and the buffer with them in it. -/
inductive Step where
  | received (index : Nat)
  | ended
  | closed
  | phase (p : Phase)
  | noted (n : Note)
  | lost (l : LostEdge)
  | recorded (events : List Event) (buffer : Buffer)
  | armed (a : Action)
  | abandoned (a : Action)
  | firing (a : Action)
  | notRepeating (a : Action)
  | stopped (a : Action)
  | inputClosed
  | executed (a : Action)
  deriving DecidableEq, Repr

def Step.logLine? : Step → Option LogLine
  | .noted (.failed q) => some q.warning
  | .lost l => some ⟨.warning, l.message, none⟩
  | .recorded _ buffer => some ⟨.debug, "Buffer: " ++ buffer.condensed, none⟩
  | .armed a => some ⟨.debug, "Armed " ++ a.line, none⟩
  | .abandoned a => some ⟨.debug, "Abandoned " ++ a.line ++ "; more input arrived", none⟩
  | .firing a => some ⟨.info, "Firing " ++ a.line, none⟩
  | .notRepeating a => some ⟨.debug, "Not repeating " ++ a.line ++ "; already released", none⟩
  | .stopped a => some ⟨.debug, "Stopped repeating " ++ a.line, none⟩
  | .inputClosed => some ⟨.info, "Input closed; stopping", none⟩
  | _ => none

structure Entry where
  instant : Rat
  step : Step
  deriving DecidableEq, Repr

def Entry.time (e : Entry) : Int :=
  roundDivInt e.instant.num e.instant.den

structure Outcome where
  state : State
  entries : List Entry := []
  failure : Option Failure := none

def Outcome.andThen (o : Outcome) (next : State → Outcome) : Outcome :=
  match o.failure with
  | some _ => o
  | none =>
    let after := next o.state
    ⟨after.state, o.entries ++ after.entries, after.failure⟩

def entriesAt (time : Rat) (steps : List Step) : List Entry :=
  steps.map (⟨time, ·⟩)

def dropOwed (owed : List Token) : List Event → List Event × List Token
  | [] => ([], owed)
  | e :: rest =>
    let release := e.button.token .release
    -- A press means that an owed release went missing; either way nothing is owed for the button
    -- afterwards.
    let (kept, left) := dropOwed (owed.filter (· != release)) rest
    if owed.contains release && e.edge == .release then (kept, left) else (e :: kept, left)

def oweMore (owed more : List Token) : List Token :=
  more.foldl (fun owed t => if owed.contains t then owed else owed ++ [t]) owed

def candidate (r : Recognizer) (time : Rat) (tokens : List Token) (s : Snapshot) :
    List Action → Except Regex.Error (Option Action) × Snapshot
  | [] => (.ok none, s)
  | a :: rest =>
    if matchesAnywhere a.pattern tokens then
      match s.evaluate r.host r.android time a.condition with
      | (.ok true, s) => (.ok (some a), s)
      | (.ok false, s) => r.candidate time tokens s rest
      | (.error e, s) => (.error e, s)
    else r.candidate time tokens s rest

def arm (time : Rat) (a : Action) (s : State) : Outcome :=
  let entries := entriesAt time [.phase .armed, .armed a]
  let s := { s with phase := .armed }
  -- The wait has to be a number of seconds that can be waited for.
  if (Binary64.ofQuotient? s.buffer.maxMillis 1000).isNone then
    ⟨s, entries, some .waitTooLong⟩
  else if s.buffer.maxMillis < 0 then ⟨s, entries, some .waitNegative⟩
  else ⟨{ s with wait := .armed a (time + s.buffer.maxMillis) }, entries, none⟩

def evaluate (r : Recognizer) (time : Rat) (events : List Event) (s : State) : Outcome :=
  let lost := s.buffer.extendLost events
  let buffer := s.buffer.extend events
  let (found, snapshot) := r.candidate time buffer.tokens { received := s.received } r.table
  let entries := entriesAt time (lost.map .lost ++
    [.recorded events buffer, .phase .evaluating] ++ snapshot.notes.map .noted)
  let s := { s with buffer := buffer, phase := .evaluating, wait := .input }
  match found with
  | .error e => ⟨s, entries, some (.regex e)⟩
  | .ok none => ⟨{ s with phase := .idle }, entries ++ entriesAt time [.phase .idle], none⟩
  | .ok (some a) => (⟨s, entries, none⟩ : Outcome).andThen (arm time a)

/-- Executes an armed action whose gesture has been stable, and starts to repeat it if it repeats
    and the end of the gesture is still held. -/
def fire (time : Rat) (a : Action) (s : State) : Outcome :=
  let stillHeld := matchesEnd a.pattern s.buffer.tokens
  let s := { s with
    owed := oweMore s.owed s.buffer.heldReleases
    buffer := s.buffer.clear
    phase := .fired
    wait := .input }
  let entries := entriesAt time [.phase .fired, .firing a, .executed a]
  match a.interval?, stillHeld with
  | none, _ => ⟨{ s with phase := .idle }, entries ++ entriesAt time [.phase .idle], none⟩
  | some _, false =>
    ⟨{ s with phase := .idle }, entries ++ entriesAt time [.notRepeating a, .phase .idle], none⟩
  | some interval, true =>
    let s := { s with phase := .repeating }
    let entries := entries ++ entriesAt time [.phase .repeating]
    if (Binary64.ofQuotient? interval 1000).isNone then ⟨s, entries, some .intervalTooLong⟩
    else ⟨{ s with wait := .repeating a time }, entries, none⟩

def dueCount (last time : Rat) (interval : Nat) : Nat :=
  ((time - last) / interval).floor.toNat

def repeatUntil (time : Rat) (s : State) : Outcome :=
  match s.wait with
  | .repeating a last =>
    let interval := a.interval?.getD 0
    let count := dueCount last time interval
    ⟨{ s with wait := .repeating a (last + count * interval) },
      (List.range count).map fun (i : Nat) => ⟨last + (i + 1) * interval, .executed a⟩, none⟩
  | _ => ⟨s, [], none⟩

def expire (time : Rat) (s : State) : Outcome :=
  match s.wait with
  | .armed a deadline =>
    if deadline ≤ time then (fire deadline a s).andThen (repeatUntil time) else ⟨s, [], none⟩
  | _ => repeatUntil time s

def resume (r : Recognizer) (time : Rat) (s : State) : Outcome :=
  if s.pending.isEmpty then ⟨s, [], none⟩
  else r.evaluate time s.pending { s with pending := [] }

def interrupt (r : Recognizer) (time : Rat) (step : Step) (events : List Event) (s : State) :
    Outcome :=
  let s := { s with wait := .input, phase := .idle, pending := events }
  (⟨s, entriesAt time [step, .phase .idle], none⟩ : Outcome).andThen (r.resume time)

def isReleased (a : Action) (owed : List Token) : Bool :=
  a.holdReleases.any (!owed.contains ·)

def accept (r : Recognizer) (time : Rat) (events : List Event) (s : State) : Outcome :=
  match s.wait with
  | .input => if events.isEmpty then ⟨s, [], none⟩ else r.evaluate time events s
  | .armed a _ =>
    if events.isEmpty then ⟨s, [], none⟩ else r.interrupt time (.abandoned a) events s
  | .repeating a _ =>
    if events.isEmpty && !isReleased a s.owed then ⟨s, [], none⟩
    else r.interrupt time (.stopped a) events s

def receive (r : Recognizer) (time : Rat) (raw : Raw) (s : State) : Outcome :=
  let entries := entriesAt time [.received s.received]
  let s := { s with received := s.received + 1 }
  match s.decoder.decode raw with
  | .error e => ⟨s, entries, some (.elapsed e)⟩
  | .ok (events, decoder) =>
    let (kept, owed) := dropOwed s.owed events
    (⟨{ s with decoder := decoder, owed := owed }, entries, none⟩ : Outcome).andThen
      (r.accept time kept)

structure Arrival where
  time : Rat
  raw : Raw
  deriving Repr

def feed (r : Recognizer) : List Arrival → State → Outcome
  | [], s => ⟨s, [], none⟩
  | a :: rest, s => ((expire a.time s).andThen (r.receive a.time a.raw)).andThen (r.feed rest)

def finish (time : Rat) (s : State) : Outcome :=
  (expire time s).andThen fun s => ⟨s, entriesAt time [.ended, .inputClosed], none⟩

def lastTime (entries : List Entry) : Rat :=
  (entries.getLast?.map (·.instant)).getD 0

def run (r : Recognizer) (buffer : Buffer) (arrivals : List Arrival) (endTime : Rat) : Outcome :=
  let o := (r.feed arrivals { buffer := buffer }).andThen (finish endTime)
  -- Whatever ends the run, the input is closed last.
  { o with entries := o.entries ++ entriesAt (lastTime o.entries) [.closed] }

end Recognizer

end Gesture
