import Gesture.Shell.Builtin.Basic

namespace Gesture.Shell.Builtin

def showTraps : Run Unit := do
  let traps := (← Run.process).traps.mergeSort fun a b => decide (a.1 ≤ b.1)
  traps.forM fun (signal, action) => do
    let name := (Signal.name? signal).getD ""
    outLine ("trap -- ".toList ++ quoted action ++ ' ' :: name.toList)

def setTraps (action : Option Bytes) : List Bytes → Run Nat
  | [] => return 0
  | name :: names => do
    match Signal.ofText? name true with
    | none =>
      Run.say 2 ("trap: ".toList ++ name ++ ": bad trap\n".toList)
      return 1
    | some signal =>
      Run.update fun p =>
        let others := p.traps.filter (·.1 != signal)
        if p.ignored.contains signal && signal != 0 then p
        else
          match action with
          | none | some ['-'] => { p with traps := others }
          | some action => { p with traps := (signal, action) :: others }
      setTraps action names

def trap (arguments : List Bytes) : Run Nat := do
  let (_, rest) ← optionsOf "" arguments
  match rest with
  | [] =>
    showTraps
    return 0
  | [name] => setTraps none [name]
  | action :: names =>
    if (Signal.ofNumber? action).isSome then setTraps none (action :: names)
    else setTraps (some action) names

def killUsage : Bytes :=
  ("Usage: kill [-s sigspec | -signum | -sigspec] [pid | job]... or\n" ++
    "kill -l [exitstatus]").toList

def listSignals (arguments : List Bytes) : Run Nat := do
  match arguments with
  | [] =>
    outLine ['0']
    Signal.names.forM fun name => outLine name.toList
    return 0
  | status :: _ =>
    let n ← numberOf status
    let n := if 128 < n then n - 128 else n
    match (if n = 0 then none else Signal.names[n - 1]?) with
    | some name =>
      outLine name.toList
      return 0
    | none =>
      Run.failWith ("invalid signal number or exit status: ".toList ++ status)

structure Request where
  list : Bool := false
  signal : Option Nat := none
  rest : List Bytes

def requestOf (arguments : List Bytes) : Run Request := do
  match arguments with
  | ('-' :: name) :: rest =>
    match Signal.ofText? name false with
    | some signal => return { signal := some signal, rest }
    | none =>
      let (options, rest) ← optionsOf "ls:" arguments
      options.foldlM
        (fun (r : Request) (letter, value) => do
          if letter == 'l' then return { r with list := true }
          else
            match Signal.ofText? value false with
            | some signal => return { r with signal := some signal }
            | none => Run.failWith ("invalid signal number or name: ".toList ++ value))
        { rest }
  | rest => return { rest }

def jobOf (jobs : List Job) (name : Bytes) : Except Bytes Job :=
  let noSuch : Bytes := "No such job: ".toList ++ name
  let orElse (job? : Option Job) (message : Bytes) : Except Bytes Job :=
    match job? with
    | some job => .ok job
    | none => .error message
  match name with
  | ['%'] | ['%', '%'] | ['%', '+'] => orElse jobs.head? "No current job".toList
  | ['%', '-'] => orElse jobs[1]? "No previous job".toList
  | '%' :: digits =>
    if digits.all Char.isDigit then
      orElse (jobs.find? (·.number == Text.decimalValue digits)) noSuch
    else .error noSuch
  | name =>
    if name.all Char.isDigit then orElse (jobs.find? (·.id == Text.decimalValue name)) noSuch
    else .error noSuch

def jobNamed (name : Bytes) : Run Job := do
  match jobOf (← Run.process).jobs name with
  | .ok job => return job
  | .error message => Run.failWith message

/-- The process that a signal goes to. A job has no group of its own to which one could be sent. -/
def targetOf (name : Bytes) : Run Nat := do
  match name with
  | '%' :: _ =>
    let _ ← jobNamed name
    return 0
  | '-' :: group =>
    let _ ← numberOf group
    return 0
  | name => numberOf name

def kill (e : Engine) (arguments : List Bytes) : Run Nat := do
  if arguments.isEmpty then Run.failWith killUsage
  let r ← requestOf arguments
  let signal := r.signal.getD Signal.terminate
  if r.list then
    if r.signal.isSome then Run.failWith killUsage
    listSignals r.rest
  else if r.rest.isEmpty then Run.failWith killUsage
  else
    r.rest.foldlM
      (fun status name => do
        if ← e.sendSignal (← targetOf name) signal then return status
        Run.complain "No such process\n".toList
        return 1)
      0

def interruption? (limit : Option Nat) : Run (Option (Nat × Nat)) := do
  let p ← Run.process
  let coming ← Run.signalsUntil limit
  return coming.find? fun (signal, _) => ((p.traps.lookup signal).map (!·.isEmpty)).getD false

def waitFor (id : Nat) : Run (Nat × Bool) := do
  match (← get).ended.find? (·.id == id) with
  | none => return (127, false)
  | some job =>
    match ← interruption? job.ending with
    | some (signal, time) =>
      Run.waitUntil (some time)
      return (128 + signal, true)
    | none =>
      Run.waitUntil job.ending
      Engine.tellOf job
      return (job.fate.status, false)

def waitForAll : List Nat → Nat → Run Nat
  | [], status => return status
  | id :: rest, _ => do
    let (status, interrupted) ← waitFor id
    if interrupted then return status else waitForAll rest status

def markWaited (isMeant : Job → Bool) : Run Unit :=
  Run.update fun p =>
    { p with jobs := p.jobs.map fun job => { job with waited := job.waited || isMeant job } }

def awaitedOf (name : Bytes) : Run Nat := do
  match name with
  | '%' :: _ => return (← jobNamed name).id
  | name =>
    let id ← numberOf name
    return if (← Run.process).jobs.any (·.id == id) then id else 0

def wait (arguments : List Bytes) : Run Nat := do
  let (_, names) ← optionsOf "" arguments
  let p ← Run.process
  if names.isEmpty then
    let ended := (← get).ended
    let endings := p.jobs.filterMap fun job =>
      (ended.find? (·.id == job.id)).map (·.ending)
    let last := endings.foldl (fun latest time => do return max (← latest) (← time)) (some 0)
    match ← interruption? last with
    | some (signal, time) =>
      Run.waitUntil (some time)
      return 128 + signal
    | none =>
      Run.waitUntil last
      markWaited fun _ => true
      return 0
  else
    let ids ← names.mapM awaitedOf
    let status ← waitForAll ids 127
    markWaited fun job => ids.contains job.id
    return status

def jobState (m : Machine) (job : Job) : String × Bool :=
  match m.ended.find? (·.id == job.id) with
  | some e =>
    if (e.ending.map (decide <| · ≤ m.process.now)).getD false then
      match e.fate with
      | .killed signal => (Signal.description signal, true)
      | fate =>
        (if fate.status = 0 then "Done" else "Done(" ++ toString fate.status ++ ")", true)
    else ("Running", false)
  | none => ("Running", false)

def jobSize (m : Machine) (job : Job) : Nat :=
  match (m.started.find? (·.id == job.id)).map Started.body with
  | some (.pipeline commands _) => max 1 commands.length
  | _ => 1

def showJob (options : List Char) (job : Job) : Run Unit := do
  let m ← get
  let jobs := m.process.jobs
  if options.contains 'p' then outLine (Run.number job.id)
  else
    let mark := if jobs.head? == some job then '+' else if jobs[1]? == some job then '-' else ' '
    let (state, ended) := jobState m job
    let number := '[' :: Run.number job.number ++ [']', ' ', mark, ' ']
    let front := number ++ (if options.contains 'l' then Run.number job.id ++ [' '] else []) ++
      state.toList
    let gap := List.replicate (33 - front.length) ' '
    let pipes := (List.replicate (jobSize m job - 1) " | ".toList).flatten
    outLine (front ++ gap ++ pipes)
    if ended then Run.update fun p => { p with jobs := p.jobs.erase job }

def showJobs (arguments : List Bytes) : Run Nat := do
  let (options, names) ← optionsOf "lp" arguments
  let letters := options.map (·.1)
  if names.isEmpty then (← Run.process).jobs.forM (showJob letters)
  else names.forM fun name => do showJob letters (← jobNamed name)
  return 0

def controlJob (arguments : List Bytes) : Run Nat := do
  let (_, names) ← optionsOf "" arguments
  let _ ← jobNamed (names.headD ['%'])
  Run.failWith "job (null) not created under job control".toList

end Gesture.Shell.Builtin
