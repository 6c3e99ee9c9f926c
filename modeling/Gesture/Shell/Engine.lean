import Gesture.Shell.Fields
import Gesture.Shell.Parser
import Gesture.Shell.Variables

namespace Gesture.Shell

structure Flags where
  tested : Bool := false
  last : Bool := false

inductive Tilde where
  | nowhere
  | start
  | value
  | assignment
  deriving DecidableEq, Repr

structure Manner where
  quoted : Bool := false
  fields : Bool := false
  inner : Bool := false
  tilde : Tilde := .nowhere

structure Engine where
  command : Command → Flags → Run Nat
  expand : Manner → Word → Run (List Cell)
  /-- The program of a name, if there is one: what it does with its arguments in the process at hand,
      and the status it ends with. -/
  program? : Bytes → Option (List Bytes → Run Nat)

namespace Engine

def readerOf (source : Bytes) : Run Reader := do
  let m ← get
  return {
    sources := [⟨source, none, false⟩], aliases := m.process.aliases, documents := m.documents }

def readLine (reader : Reader) : Run (Parser.Line × Reader) := do
  let m ← get
  let reader := { reader with aliases := m.process.aliases, documents := m.documents }
  let result := Parser.line reader
  let after := match result with
    | .ok _ r | .error _ r => r
  set { m with documents := after.documents }
  match result with
  | .ok line r => return (line, r)
  | .error e r =>
    Run.update fun p => { p with line := r.lineNumber }
    Run.failWith e.message.toList

def source (e : Engine) (text : Bytes) (flags : Flags) : Run Nat := do
  let reader ← readerOf text
  iterate .stalled
    (fun (reader, status) => do
      let (line, reader) ← readLine reader
      match line with
      | .ending => return .inr status
      | .script none => return .inl (reader, status)
      | .script (some c) =>
        let status ← e.command c flags
        if (← Run.process).skip != .none then return .inr status
        return .inl (reader, status))
    100000000 (reader, 0)

def runTraps (e : Engine) : Run Unit := do
  Run.checkSignals
  let p ← Run.process
  if p.caught.isEmpty then return
  let outer := p.savedStatus
  let status := outer.getD p.status
  Run.update fun p => { p with savedStatus := some status }
  for signal in p.caught.mergeSort do
    let p ← Run.process
    if p.skip == .none then
      Run.update fun p => { p with caught := p.caught.erase signal }
      match p.traps.lookup signal with
      | none => pure ()
      | some action =>
        let _ ← e.source action {}
        if (← Run.process).skip != .rest true then Run.setStatus status
  Run.update fun p => { p with savedStatus := outer }

def conclude (e : Engine) (body : Run Unit) : Run Fate := do
  /- The status that was asked for takes the place of the latest one. -/
  let settle (asked : Bool) : Run Unit := Run.update fun p =>
    { p with
      status := if asked then p.savedStatus.getD p.status else p.status
      savedStatus := none }
  let leave : Run Fate := do
    let p ← Run.process
    match p.traps.lookup 0 with
    | none => pure ()
    | some action =>
      Run.update fun p =>
        { p with
          traps := p.traps.filter (·.1 != 0)
          skip := .none
          savedStatus := some p.status
          builtin := none }
      let asked ←
        try
          let _ ← e.source action {}
          pure true
        catch
          | .failed | .finished => pure false
          | .exited => pure true
          | s => throw s
      settle asked
    return .exited (← Run.process).status
  let fatal : Stop → Run Fate
    | .killed signal => return .killed signal
    | .tooDeep => return .killed 11
    | .full => return .full
    | _ => return .stalled
  let ended (asked : Bool) : Run Fate := do
    settle asked
    try leave catch s => fatal s
  try
    body
    ended false
  catch
    | .failed | .finished => ended false
    | .exited => ended true
    | s => fatal s

def endingOf (fate : Fate) : Run (Option Nat) := do
  match fate with
  | .stalled | .full => return none
  | _ => return some (← Run.process).now

def inProcess (prepare : Process → Process) (body : Run Fate) : Run Ended := do
  let m ← get
  let id := m.nextId
  let outer := m.process
  set { m with nextId := id + 1, process := prepare { outer with id, parent := outer.id } }
  let fate ← body
  let p ← Run.process
  let ending ← endingOf fate
  if fate != .full then Run.release p.lineage p.descriptors ending
  let ended : Ended := ⟨id, p.lineage, ending, fate⟩
  modify fun m => { m with process := outer, ended := ended :: m.ended }
  return ended

/-- A process as a subshell starts out: it ignores what is ignored, and forgets all other actions. -/
def asSubshell (p : Process) : Process :=
  { p with
    traps := p.traps.filter fun t => t.2.isEmpty && t.1 != 0
    caught := []
    jobs := [] }

def subshell (e : Engine) (prepare : Process → Process) (body : Run Unit) :
    Run Ended :=
  inProcess (fun p => prepare (asSubshell p)) (e.conclude body)

def await (child : Ended) : Run Nat := do
  if child.fate == .full then throw .full
  Run.waitUntil child.ending
  return child.fate.status

def tellOf (child : Ended) : Run Unit := do
  match child.fate with
  | .killed signal =>
    if signal != 2 && signal != 13 then
      Run.say 2 ((Signal.description signal).toList ++ ['\n'])
  | _ => pure ()

def join (child : Ended) : Run Nat := do
  let status ← await child
  tellOf child
  return status

def startDelay : Nat := 500

/-- The jobs with one more. It takes the first number that is free, or that of a job which has ended
    and was waited for. -/
def withJob (m : Machine) (jobs : List Job) (id : Nat) : List Job :=
  let hasEnded (job : Job) : Bool :=
    match m.ended.find? (·.id == job.id) with
    | some e => (e.ending.map (decide <| · ≤ m.process.now)).getD false
    | none => false
  let taken (number : Nat) : Bool :=
    jobs.any fun job => job.number == number && !(job.waited && hasEnded job)
  let numbers := (List.range (jobs.length + 1)).map (· + 1)
  let number := (numbers.find? fun n => !taken n).getD (jobs.length + 1)
  { number, id } :: jobs.filter (·.number != number)

def simulate (e : Engine) (s : Started) : Run Unit := do
  let outer := (← get).process
  modify fun m => { m with process := s.process }
  let fate ← e.conclude do
    let _ ← e.command s.body { last := true }
  let p ← Run.process
  let ending ← endingOf fate
  Run.release p.lineage p.descriptors ending
  modify fun m =>
    { m with process := outer, ended := ⟨s.id, p.lineage, ending, fate⟩ :: m.ended }

/-- Starts a command in the background. It reads nothing and ignores signals from the keyboard. -/
def background (e : Engine) (c : Command) : Run Unit := do
  let null ← Run.addHandle { target := .device .null, writable := false }
  let m ← get
  let p := m.process
  let id := m.nextId
  let child :=
    { asSubshell p with
      id
      parent := p.id
      lineage := id :: p.lineage
      now := p.now + startDelay
      ignored := 2 :: 3 :: p.ignored
      descriptors := Run.bound 0 null p.descriptors }
  let started : Started := ⟨id, child, c⟩
  set { m with nextId := id + 1, started := started :: m.started }
  e.simulate started
  modify fun m =>
    { m with process :=
        { m.process with jobs := withJob m m.process.jobs id, latestJob := some id } }

def withoutJob (m : Machine) (id : Nat) : Machine :=
  { m with
    channels := m.channels.map fun c =>
      { c with
        arrived := c.arrived.filter fun w => !w.lineage.contains id
        ready := c.ready.filter fun w => !w.lineage.contains id
        holds := c.holds.filter fun h => !h.1.contains id }
    ended := m.ended.filter fun p => !p.lineage.contains id }

/-- Sends a signal to a process, and says whether there is one. A command in the background that was
    run to its end without the signal is run again with it. -/
def sendSignal (e : Engine) (target signal : Nat) : Run Bool := do
  let m ← get
  let p := m.process
  if target == p.id then
    if signal ≠ 0 then Run.deliver signal p.now
    return true
  let arrival := (target, signal, p.now)
  match m.ended.find? (·.id == target) with
  | some found =>
    if (found.ending.map (decide <| · ≤ p.now)).getD false then return false
    match m.started.find? (·.id == target) with
    | some started =>
      if signal ≠ 0 then
        let m := withoutJob m target
        set { m with signals := arrival :: m.signals }
        e.simulate started
      return true
    | none => return true
  | none =>
    if target < p.shellId || m.nextId ≤ target then return false
    if signal ≠ 0 then set { m with signals := arrival :: m.signals }
    return true

end Engine

end Gesture.Shell
