import Gesture.Shell.Builtin.Parameters
import Gesture.Shell.Program.Basic

namespace Gesture.Shell.Program

variable (e : Engine)

def follow : Fate → Run Nat
  | .exited status => return status % 256
  | .killed signal => throw (.killed signal)
  | .stalled => throw .stalled
  | .full => throw .full

structure Invocation where
  fromArgument : Bool := false
  fromInput : Bool := false
  rest : List Bytes

def shellLetters (on : Bool) (s : Invocation) (letters : Bytes) : Run Invocation :=
  letters.foldlM
    (fun s c => do
      if c == 'c' then return { s with fromArgument := true }
      else if c == 's' then return { s with fromInput := true }
      else if c == 'l' || c == 'i' then return s
      else if c == 'o' then
        match s.rest with
        | name :: rest =>
          Builtin.setNamedOption name on
          return { s with rest }
        | [] => return s
      else
        Builtin.setOption c on
        return s)
    s

def invocation (arguments : List Bytes) : Run Invocation :=
  iterate .stalled
    (fun (s : Invocation) => do
      match s.rest with
      | ['-'] :: rest | ['-', '-'] :: rest => return .inr { s with rest }
      | ('-' :: letters) :: rest => return .inl (← shellLetters true { s with rest } letters)
      | ('+' :: letters) :: rest => return .inl (← shellLetters false { s with rest } letters)
      | _ => return .inr s)
    100000 { rest := arguments }

def runScript (name : Bytes) (arguments : List Bytes) (script : Bytes) : Run Unit := do
  Run.update fun p => { p with name, arguments }
  let _ ← e.source script {}

def shellBindings (p : Process) : List (Bytes × Variable) :=
  let set := ["IFS", "OPTIND", "PPID"]
  let given := p.bindings.filter fun b => !set.contains (String.ofList b.1)
  let isNew (name : String) : Bool := given.all (·.1 != name.toList)
  let own := [("IFS", " \t\n".toList), ("OPTIND", ['1']), ("PPID", Run.number p.parent)]
  let usual := [("PS1", "# ".toList), ("PS2", "> ".toList), ("PS4", "+ ".toList)]
  given ++ (own ++ usual.filter fun v => isNew v.1).map fun (name, value) =>
    (name.toList, { value := some value })

def shell (arguments : List Bytes) : Run Nat := do
  Run.update fun p => { p with shellId := p.id, bindings := shellBindings p }
  let name ← ownName
  let body : Run Unit := do
    let s ← invocation arguments
    match s.fromArgument, s.rest with
    | true, [] => Run.failWith "-c requires an argument".toList
    | true, [script] => runScript e name [] script
    | true, script :: name :: rest => runScript e name rest script
    | false, [] =>
      match ← Run.receiveAll 0 with
      | .ok script => runScript e name [] script
      | .error _ => pure ()
    | false, file :: rest =>
      if s.fromInput then
        match ← Run.receiveAll 0 with
        | .ok script => runScript e name s.rest script
        | .error _ => pure ()
      else
        match ← contentsOf file with
        | .ok script => runScript e file rest script
        | .error _ =>
          Run.complain ("cannot open ".toList ++ file ++ ": No such file".toList)
          Run.setStatus 2
          throw .failed
  follow (← e.conclude body)

/-- Runs a program in place of another one. What is said if it cannot be run begins with a start,
    and has a name in quotes. -/
def become (start : String) (quote : Bytes → String) (words : List Bytes) : Run Nat := do
  let m ← get
  let name := words.headD []
  let path? := Lookup.pathOf m name
  let found := do Lookup.resolve m 6 (← path?) words
  match path?, found with
  | .ok path, .ok _ => Lookup.execute e path words
  | _, .error e | .error e, _ => refuse (Lookup.failure e) (start ++ quote name ++ ": " ++ e.reason)

def command (text : Bytes) (input : Option Bytes) (captures : Bool) :
    Run (Bytes × Nat) := do
  let reader? ← match input with
    | none => pure none
    | some bytes => do
      let (channel, reader, _) ← Run.newChannel 0
      let p ← Run.process
      Run.modifyChannel channel fun c =>
        { c with arrived := if bytes.isEmpty then [] else [⟨p.now, p.lineage, bytes⟩] }
      pure (some reader)
  let output? ← if captures then do
      let (channel, _, writer) ← Run.newChannel 1000000
      pure (some (channel, writer))
    else pure none
  let child ← Engine.inProcess
    (fun p =>
      let descriptors := match reader? with
        | some reader => Run.bound 0 reader p.descriptors
        | none => p.descriptors
      let descriptors := match output? with
        | some (_, writer) => Run.bound 1 writer descriptors
        | none => descriptors
      { p with descriptors })
    (Lookup.fateOf (become e "" shown ["sh".toList, "-c".toList, text]))
  let status ← Engine.await child
  let code := match child.fate with
    | .killed signal => 256 + signal
    | _ => status
  match output? with
  | none => return ([], code)
  | some (channel, _) =>
    let m ← get
    Run.waitUntil ((m.channels[channel]?.map (·.closing)).getD child.ending)
    return ((m.channels[channel]?.map (·.contents)).getD [], code)

def setEnvironment (name value : Bytes) : Run Unit :=
  Run.update fun p =>
    { p with bindings := Run.bound name { value := some value, exported := true } p.bindings }

def setAll : List Bytes → Run (List Bytes)
  | [] => return []
  | word :: rest => do
    if word.contains '=' then
      let name := word.takeWhile (· != '=')
      setEnvironment name (word.drop (name.length + 1))
      setAll rest
    else return word :: rest

def environment (arguments : List Bytes) : Run Nat :=
  let long := [("ignore-environment", 'i'), ("unset", 'u'), ("null", '0'), ("chdir", 'C')]
  withOptions "iu:0C:" long true 125 arguments fun o => do
    let rest := if o.rest.head? == some ['-'] then o.rest.tail else o.rest
    let clear := o.has 'i' || o.rest.head? == some ['-']
    if clear then Run.update fun p => { p with bindings := [] }
    o.letters.forM fun (c, name) => do
      if c == 'u' then
        Run.update fun p => { p with bindings := p.bindings.filter (·.1 != name) }
    match ← setAll rest with
    | [] =>
      (← Run.process).bindings.forM fun (name, v) =>
        emitLine (name ++ '=' :: v.value.getD [])
      return 0
    | words => become e "" inRoundQuotes words

def printEnvironment (arguments : List Bytes) : Run Nat := do
  let p ← Run.process
  if arguments.isEmpty then
    p.bindings.forM fun (name, v) => emitLine (name ++ '=' :: v.value.getD [])
    return 0
  arguments.foldlM
    (fun status name => do
      match Run.valueOf p (shown name) with
      | some value =>
        emitLine value
        return status
      | none => return 1)
    0

def plainWrapper (letters start : String) (quote : Bytes → String) (arguments : List Bytes) :
    Run Nat :=
  withOptions letters [] true 125 arguments fun o => do
    if o.rest.isEmpty then misuse 125 "missing operand" else become e start quote o.rest

/-- What `timeout` leaves: the command ended in some way, perhaps after its time was up. With a time
    at which all is killed, nothing is left after it. -/
def afterTimeout (o : Options) (child : Ended) (deadline killing : Option Nat) : Run Nat := do
  let comesBefore (time : Option Nat) : Bool :=
    match time, child.ending with
    | some t, some ending => decide (t ≤ ending)
    | some _, none => true
    | none, _ => false
  let timedOut := comesBefore deadline
  if comesBefore killing && !o.has 'f' then
    Run.waitUntil killing
    throw (.killed 9)
  if child.fate == .full then throw .full
  Run.waitUntil child.ending
  match child.fate with
  | .killed s =>
    if !timedOut then throw (.killed s)
    return if o.has 'p' || s = 9 then 128 + s else 124
  | fate => return if timedOut && !o.has 'p' then 124 else fate.status

def timeout (arguments : List Bytes) : Run Nat :=
  let long := [("signal", 's'), ("kill-after", 'k'), ("preserve-status", 'p'), ("foreground", 'f'),
    ("verbose", 'v')]
  withOptions "s:k:v" long true 125 arguments fun o => do
    let grace := (o.last? 'k').getD ['0']
    match o.rest with
    | duration :: word :: words =>
      let signal? := Signal.ofText? ((o.last? 's').getD "TERM".toList) false
      match sleepTime? duration, sleepTime? grace, signal? with
      | some limit, some more, some signal =>
        let p ← Run.process
        let deadline := (limit.filter (· ≠ 0)).map (p.now + ·)
        let killing := if signal = 9 then deadline
          else do return (← deadline) + (← more.filter (· ≠ 0))
        let sent := deadline.toList.map fun time => (p.id, signal, time)
        let killed := killing.toList.map fun time => (p.id, 9, time)
        modify fun m => { m with groupSignals := sent ++ killed ++ m.groupSignals }
        let steps := (← get).steps
        let child ← Engine.inProcess (fun q => { q with group := p.id, heard := [] })
          (Lookup.fateOf (become e "failed to run command " inRoundQuotes (word :: words)))
        if o.has 'v' && deadline.isSome && child.ending.all (fun t => deadline.all (· ≤ t)) then
          complain ("sending signal " ++ (Signal.name? signal).getD "" ++ " to command " ++
            inRoundQuotes word)
        /- What would never end by itself ends when the signal comes. -/
        if child.fate == .stalled && deadline.isSome && Signal.effect signal == .ends then
          modify fun m => { m with steps }
          afterTimeout o { child with ending := deadline, fate := .killed signal } deadline killing
        else afterTimeout o child deadline killing
      | none, _, _ => misuse 125 ("invalid time interval " ++ inRoundQuotes duration)
      | _, none, _ => misuse 125 ("invalid time interval " ++ inRoundQuotes grace)
      | _, _, none => misuse 125 (inRoundQuotes ((o.last? 's').getD []) ++ ": invalid signal")
    | _ => hint 125

end Gesture.Shell.Program
