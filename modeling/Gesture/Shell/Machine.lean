import Gesture.Shell.Signal
import Gesture.Shell.Syntax
import Gesture.Shell.Tree

namespace Gesture.Shell

structure Variable where
  value : Option Bytes
  exported : Bool := false
  fixed : Bool := false
  deriving DecidableEq, Repr

inductive Skip where
  | none
  | break
  | continue
  | rest (given : Bool)
  deriving DecidableEq, Repr

structure Limit where
  soft : Option Nat
  hard : Option Nat
  deriving DecidableEq, Repr

structure Job where
  number : Nat
  id : Nat
  waited : Bool := false
  deriving DecidableEq, Repr

structure Process where
  id : Nat
  parent : Nat := 4241
  lineage : List Nat := []
  shellId : Nat
  now : Nat := 0
  status : Nat := 0
  savedStatus : Option Nat := none
  substituted : Nat := 0
  bindings : List (Bytes × Variable)
  hidden : List (List (Bytes × Option Variable)) := []
  hiddenOptions : List (Option (List Char)) := []
  name : Bytes
  arguments : List Bytes := []
  functions : List (Bytes × Nat × Command) := []
  aliases : List (Bytes × Bytes) := []
  remembered : List Bytes := []
  recalled : List Bytes := []
  options : List Char := []
  descriptors : List (Nat × Nat)
  working : Place
  workingPath : Bytes
  traps : List (Nat × Bytes) := []
  group : Nat := 0
  heard : List (Nat × Nat) := []
  ignored : List Nat := []
  caught : List Nat := []
  jobs : List Job := []
  latestJob : Option Nat := none
  skip : Skip := .none
  skipCount : Nat := 0
  loops : Nat := 0
  optionNumber : Nat := 1
  optionOffset : Option Nat := none
  mask : Nat := 18
  limits : List (Char × Limit) := []
  line : Nat := 1
  builtin : Option Bytes := none
  outputFailed : Bool := false
  unfinished : Bool := false

structure Write where
  time : Nat
  lineage : List Nat
  bytes : Bytes

structure Channel where
  arrived : List Write := []
  ready : List Write := []
  holds : List (List Nat × Option Nat) := []
  cut : Bool := false
  room : Nat

namespace Channel

def settle (c : Channel) : Channel :=
  if c.arrived.isEmpty then c
  else
    { c with
      arrived := []
      ready := (c.ready ++ c.arrived.reverse).mergeSort fun a b => decide (a.time ≤ b.time) }

def closing (c : Channel) : Option Nat :=
  c.holds.foldl (fun latest (_, time) => do return max (← latest) (← time)) (some 0)

def contents (c : Channel) : Bytes :=
  c.settle.ready.flatMap (·.bytes)

end Channel

inductive Target where
  | device (d : Device)
  | readEnd (channel : Nat)
  | writeEnd (channel : Nat)
  | file (number : Nat)
  | directory (place : Place)
  deriving DecidableEq, Repr

structure Handle where
  target : Target
  offset : Nat := 0
  readable : Bool := true
  writable : Bool := true
  appending : Bool := false

inductive Fate where
  | exited (status : Nat)
  | killed (signal : Nat)
  | stalled
  | full
  deriving DecidableEq, Repr

def Fate.status : Fate → Nat
  | .exited status => status % 256
  | .killed signal => 128 + signal
  | .stalled | .full => 0

structure Ended where
  id : Nat
  lineage : List Nat
  ending : Option Nat
  fate : Fate

/-- How a command in the background started, so that it can be run anew if a signal is sent to it. -/
structure Started where
  id : Nat
  process : Process
  body : Command

structure Machine where
  tree : Tree
  handles : Array Handle
  channels : Array Channel
  signals : List (Nat × Nat × Nat) := []
  groupSignals : List (Nat × Nat × Nat) := []
  ended : List Ended := []
  started : List Started := []
  nextId : Nat
  steps : Nat := 0
  documents : Array Word := #[]
  process : Process

inductive Stop where
  | failed
  | finished
  | exited
  | killed (signal : Nat)
  | stalled
  | full
  | tooDeep
  deriving DecidableEq, Repr

abbrev Run := EStateM Stop Machine

namespace Run

def process : Run Process := do
  return (← get).process

def update (f : Process → Process) : Run Unit :=
  modify fun m => { m with process := f m.process }

def setStatus (status : Nat) : Run Unit :=
  update fun p => { p with status }

def stepLimit : Nat := 1500000

def boundOf (letter : Char) : Run (Option Nat) := do
  return ((← process).limits.lookup letter).bind (·.soft)

def step : Run Unit := do
  let m ← get
  if stepLimit ≤ m.steps then
    match ← boundOf 't' with
    | some seconds =>
      update fun p => { p with now := p.now + seconds * 1000000 }
      throw (.killed 9)
    | none => throw .stalled
  set { m with steps := m.steps + 1 }

def deliver (signal time : Nat) : Run Unit := do
  let p ← process
  let act : Run Unit :=
    match Signal.effect signal with
    | .nothing => pure ()
    | .stops => throw .stalled
    | .ends => do
      update fun p => { p with now := time }
      throw (.killed signal)
  if signal == 9 || signal == 19 then act
  else
    match p.traps.lookup signal with
    | some [] => pure ()
    | some _ => update fun p =>
      if p.caught.contains signal then p else { p with caught := p.caught ++ [signal] }
    | none => if p.ignored.contains signal then pure () else act

def signalsUntil (limit : Option Nat) : Run (List (Nat × Nat)) := do
  let m ← get
  let mine := m.signals.filterMap fun (id, signal, time) =>
    if id == m.process.id && (limit.map (decide <| time ≤ ·)).getD true then some (signal, time)
    else none
  let shared := m.groupSignals.filterMap fun (group, signal, time) =>
    if group == m.process.group && (limit.map (decide <| time ≤ ·)).getD true &&
      !m.process.heard.contains (signal, time) then some (signal, time)
    else none
  return (mine ++ shared).mergeSort fun a b => decide (a.2 ≤ b.2)

def takeSignal (signal time : Nat) : Run Unit :=
  modify fun m =>
    if m.signals.contains (m.process.id, signal, time) then
      { m with signals := m.signals.erase (m.process.id, signal, time) }
    else { m with process := { m.process with heard := (signal, time) :: m.process.heard } }

def checkSignals : Run Unit := do
  let m ← get
  if m.signals.isEmpty && m.groupSignals.isEmpty then return
  for (signal, time) in ← signalsUntil (some m.process.now) do
    takeSignal signal time
    deliver signal time

def waitUntil (limit : Option Nat) : Run Unit := do
  for (signal, time) in ← signalsUntil limit do
    takeSignal signal time
    deliver signal time
  match limit with
  | some time => update fun p => { p with now := max p.now time }
  | none => throw .stalled

end Run

end Gesture.Shell
