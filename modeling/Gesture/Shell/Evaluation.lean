import Gesture.Shell.Builtin.Directory
import Gesture.Shell.Builtin.Jobs
import Gesture.Shell.Builtin.Limits
import Gesture.Shell.Builtin.Parameters
import Gesture.Shell.Format
import Gesture.Shell.Lookup
import Gesture.Shell.Redirect
import Gesture.Shell.Test

namespace Gesture.Shell.Evaluation

variable (e : Engine)

def guarded {α : Type} (cleanup : Run Unit) (body : Run α) : Run α := do
  try
    let a ← body
    cleanup
    return a
  catch s =>
    cleanup
    throw s

def echo (arguments : List Bytes) : Run Nat := do
  Builtin.out (Format.echo arguments)
  return 0

def printf (arguments : List Bytes) : Run Nat := do
  let printed := Format.printf arguments
  printed.complaints.forM Run.complain
  Builtin.out printed.text
  return printed.status

def test (bracket : Bool) (arguments : List Bytes) : Run Nat := do
  let m ← get
  match Test.answer ⟨m.tree, m.process.working⟩ bracket arguments with
  | .ok answer => return if answer then 0 else 1
  | .error message => Run.failWith message

def leaveLoops (skip : Skip) (arguments : List Bytes) : Run Nat := do
  let n ← match arguments with
    | a :: _ => do
      let n ← Builtin.numberOf a
      if n = 0 then Run.failWith ("Illegal number: ".toList ++ a)
      pure n
    | [] => pure 1
  Run.update fun p =>
    let count := min n p.loops
    if count = 0 then p else { p with skip, skipCount := count }
  return 0

def leaveFunction (arguments : List Bytes) : Run Nat := do
  let status ← match arguments with
    | a :: _ => Builtin.numberOf a
    | [] => do pure (← Run.process).status
  Run.update fun p => { p with skip := .rest !arguments.isEmpty }
  return status

def exit (arguments : List Bytes) : Run Nat := do
  match arguments with
  | a :: _ =>
    let status ← Builtin.numberOf a
    Run.update fun p => { p with savedStatus := some status }
  | [] => pure ()
  throw .exited

def evaluateText (flags : Flags) (arguments : List Bytes) : Run Nat := do
  if arguments.isEmpty then return 0
  e.source ([' '].intercalate arguments) { tested := flags.tested }

def runFile (arguments : List Bytes) : Run Nat := do
  let (_, words) ← Builtin.optionsOf "" arguments
  match words with
  | [] => return 0
  | name :: _ =>
    let m ← get
    let path? := if name.contains '/' then some name
      else Lookup.filePath? m (Lookup.searchPath m) name
    match path? with
    | none => Run.failWith (name ++ ": not found".toList)
    | some path =>
      match m.tree.look m.process.working path true with
      | .ok (.file content) =>
        let status ← e.source content {}
        Run.update fun p => match p.skip with
          | .rest _ => { p with skip := .none }
          | _ => p
        return status
      | .ok _ => return 0
      | .error error =>
        Run.failWith ("cannot open ".toList ++ path ++ ": ".toList ++
          (Redirect.reason .read error).toList)

def exec (arguments : List Bytes) : Run Nat := do
  match arguments with
  | [] => return 0
  | name :: _ =>
    let path := (Lookup.pathOf (← get) name).toOption.getD name
    Lookup.replace e (if name.isEmpty then "/".toList else path) arguments

def builtin (flags : Flags) (name : String) (arguments : List Bytes) : Run Nat := do
  match name with
  | ":" | "true" => return 0
  | "false" => return 1
  | "echo" => echo arguments
  | "printf" => printf arguments
  | "test" => test false arguments
  | "[" => test true arguments
  | "." => runFile e arguments
  | "break" => leaveLoops .break arguments
  | "continue" => leaveLoops .continue arguments
  | "eval" => evaluateText e flags arguments
  | "exec" => exec e arguments
  | "exit" => exit arguments
  | "return" => leaveFunction arguments
  | "set" => Builtin.set arguments
  | "shift" => Builtin.shift arguments
  | "times" =>
    Builtin.out "0m0.000000s 0m0.000000s\n0m0.000000s 0m0.000000s\n".toList
    return 0
  | "trap" => Builtin.trap arguments
  | "unset" => Builtin.unset arguments
  | "export" =>
    Builtin.mark "export" (·.exported) (fun v => { v with exported := true }) arguments
  | "readonly" =>
    Builtin.mark "readonly" (·.fixed) (fun v => { v with fixed := true }) arguments
  | "local" => Builtin.declare arguments
  | "alias" => Builtin.defineAliases arguments
  | "unalias" => Builtin.unalias arguments
  | "cd" | "chdir" => Builtin.changeDirectory arguments
  | "pwd" => Builtin.printDirectory arguments
  | "umask" => Builtin.mask arguments
  | "command" => Lookup.tell arguments
  | "type" =>
    Lookup.describeAll true false arguments
  | "hash" => Lookup.remember arguments
  | "getopts" => Builtin.getopts arguments
  | "read" => Builtin.read arguments
  | "kill" => Builtin.kill e arguments
  | "wait" => Builtin.wait arguments
  | "jobs" => Builtin.showJobs arguments
  | "ulimit" => Builtin.changeLimit arguments
  | _ => Builtin.controlJob arguments

/-- Runs a builtin command as a command of a script. Its errors end the script only if it is a
    special one. -/
def callBuiltin (flags : Flags) (special : Bool) (name : Bytes) (arguments : List Bytes) :
    Run Nat := do
  let outer := (← Run.process).builtin
  Run.update fun p => { p with builtin := some name, outputFailed := false }
  guarded (Run.update fun p => { p with builtin := outer, outputFailed := false }) do
    try
      let status ← builtin e flags (String.ofList name) arguments
      if (← Run.process).outputFailed then
        Run.complain (name ++ ": I/O error".toList)
        return status ||| 1
      return status
    catch
      | .failed => if special then throw .failed else return (← Run.process).status
      | s => throw s

structure Head where
  fields : List Bytes
  rest : List Word
  found : Lookup.Found
  special : Bool
  temporary : Bool
  assigns : Bool := false
  usual : Bool := false
  functions : Bool := true

def firstFields : List Word → Run (List Bytes × List Word)
  | [] => return ([], [])
  | w :: rest => do
    match ← Expansion.fields e w with
    | [] => firstFields rest
    | fields => return (fields, rest)

def moreFields (fields : List Bytes) (rest : List Word) : Run (List Bytes × List Word) :=
  if fields.isEmpty then firstFields e rest else return (fields, rest)

/-- What the arguments of `command` run: their fields and the words after them, and whether programs
    are looked for in the usual places. Nothing comes of arguments that run nothing. -/
def commandArguments (fields : List Bytes) (rest : List Word) :
    Run (List Bytes × Option (List Bytes × List Word × Bool) × List Word) :=
  iterate .stalled
    (fun (seen, fields, rest, usual) => do
      let (fields, rest) ← moreFields e fields rest
      match fields with
      | [] => return .inr (seen, none, [])
      | ['-', '-'] :: more =>
        let (next, rest) ← moreFields e more rest
        if next.isEmpty then return .inr (seen ++ [['-', '-']], none, [])
        else return .inr (seen, some (next, rest, usual), rest)
      | ('-' :: c :: letters) :: more =>
        if (c :: letters).all (· == 'p') then
          return .inl (seen ++ [('-' :: c :: letters)], more, rest, true)
        else return .inr (seen ++ fields, none, rest)
      | fields => return .inr (seen, some (fields, rest, usual), rest))
    100000 (([] : List Bytes), fields, rest, false)

/-- Finds out what a command's first words stand for. Nothing comes of a command without words. -/
def headOf (words : List Word) : Run (Option Head) := do
  let (fields, rest) ← firstFields e words
  match fields with
  | [] => return none
  | name :: more =>
    let found := Lookup.find (← get) true false name
    match found with
    | .builtin kind =>
      if name == "command".toList then
        iterate .stalled
          (fun (h : Head) => do
            let (seen, next, rest) ← commandArguments e h.fields.tail h.rest
            match next with
            | none => return .inr (some { h with fields := "command".toList :: seen, rest })
            | some (fields, rest, usual) =>
              let usual := usual || h.usual
              let found := Lookup.find (← get) false usual (fields.headD [])
              let h := { h with fields, rest, found, usual, functions := false }
              match found with
              | .builtin kind =>
                let h := { h with assigns := kind.assigns }
                if fields.head? == some "command".toList then return .inl h
                else return .inr (some h)
              | _ => return .inr (some { h with assigns := false }))
          100000
          { fields, rest, found, special := false, temporary := true }
      else
        return some
          { fields, rest, found
            special := kind.special
            temporary := !kind.special
            assigns := kind.assigns }
    | _ =>
      return some { fields := name :: more, rest, found, special := false, temporary := true }

def restFields (assigns : Bool) (words : List Word) : Run (List Bytes) := do
  let fields ← words.mapM fun w => do
    if assigns && w.isAssignment then return [← Expansion.assignment e w]
    else Expansion.fields e w
  return fields.flatten

def splitAssignment : Word → Bytes × Word
  | .char c _ :: rest =>
    if c == '=' then ([], rest)
    else
      let (name, value) := splitAssignment rest
      (c :: name, value)
  | rest => ([], rest.drop 1)

def assignAll (temporary exported : Bool) (words : List Word) : Run (List Bytes) :=
  words.mapM fun w => do
    let (name, value) := splitAssignment w
    let value ← Expansion.assigned e value
    if temporary then Run.hide name
    Run.assign name value (temporary || exported)
    return name ++ '=' :: value

def trace (descriptors : List (Nat × Nat)) (fields : List Bytes) : Run Unit := do
  let p ← Run.process
  if p.options.contains 'x' then
    let mark := (Run.valueOf p "PS4").getD "+ ".toList
    Run.update fun p => { p with descriptors }
    Run.say 2 (mark ++ [' '].intercalate fields ++ ['\n'])
    Run.update fun now => { now with descriptors := p.descriptors }

def callFunction (flags : Flags) (body : Command) (arguments : List Bytes) : Run Nat := do
  let outer ← Run.process
  Run.update fun p => { p with arguments, optionNumber := 1, optionOffset := none, loops := 0 }
  let restore : Run Unit := Run.update fun p =>
    { p with
      arguments := outer.arguments
      optionNumber := outer.optionNumber
      optionOffset := outer.optionOffset
      loops := outer.loops
      skip := match p.skip with
        | .rest _ => .none
        | skip => skip }
  guarded restore (e.command body { tested := flags.tested })

def call (flags : Flags) (h : Head) (fields : List Bytes) : Run Nat := do
  let name := fields.headD []
  let arguments := fields.tail
  match h.found with
  | .builtin _ => callBuiltin e flags h.special name arguments
  | _ =>
    let m ← get
    match Lookup.find m h.functions h.usual name with
    | .builtin _ => callBuiltin e flags h.special name arguments
    | .function _ body => callFunction e flags body arguments
    | .program path =>
      Lookup.rememberProgram name
      if flags.last && m.process.traps.all (·.2.isEmpty) then Lookup.replace e path fields
      else Lookup.runProgram e path fields
    | .missing reason =>
      Run.complain (name ++ ": ".toList ++ (Lookup.failureReason reason).toList)
      return 127

def simple (line : Nat) (assignments words : List Word) (redirections : List Redirection)
    (flags : Flags) : Run Nat := do
  Run.update fun p => { p with line, substituted := 0 }
  let head ← headOf e words
  let fields ← match head with
    | none => pure []
    | some h => do pure (h.fields ++ (← restFields e h.assigns h.rest))
  let outer ← Run.process
  let special := (head.map (·.special)).getD false
  let temporary := (head.map (·.temporary)).getD false
  let isBuiltin := match head.map (·.found) with
    | some (.builtin _) => true
    | _ => false
  let isExec := fields.head? == some "exec".toList && isBuiltin
  let ready ← Redirect.prepare e redirections
  let restore : Run Unit := Run.update fun p => { p with descriptors := outer.descriptors }
  let body : Run Nat := do
    if !(← Redirect.apply e ready) then
      if special then
        Run.setStatus 2
        throw .failed
      return 2
    if temporary then Run.pushHidden
    let texts ← assignAll e temporary (isExec && 1 < fields.length) assignments
    trace outer.descriptors (texts ++ fields)
    match head with
    | none => return (← Run.process).substituted
    | some h => call e flags h fields
  /- What `exec` directs stays directed, and what ends the script leaves its variables. -/
  guarded (if isExec then pure () else restore) do
    let status ← body
    Run.popHiddenTo outer.hidden.length
    return status

/-- Starts the commands of a pipeline one after the other. Each reads what the one before it
    wrote. -/
def stages (flags : Flags) (outer : Process) :
    List Command → Option Nat → Run (List Ended)
  | [], _ => return []
  | c :: rest, input => do
    let (_, reader, writer) ← if rest.isEmpty then pure (0, 0, 0)
      else Run.newChannel Run.channelRoom
    let child ← e.subshell
      (fun p =>
        let d := match input with
          | some reader => Run.bound 0 reader p.descriptors
          | none => p.descriptors
        { p with
          now := outer.now
          descriptors := if rest.isEmpty then d else Run.bound 1 writer d })
      (do let _ ← e.command c { flags with last := true })
    return child :: (← stages flags outer rest (some reader))

def pipeline (commands : List Command) (flags : Flags) : Run Nat := do
  let children ← stages e flags (← Run.process) commands none
  let waited := children.filter (·.fate != .full)
  waited.forM fun child => Run.waitUntil child.ending
  waited.dropLast.forM Engine.tellOf
  match children.getLast? with
  | some child => Engine.join child
  | none => return 0

def subshell (line : Nat) (body : Command) (redirections : List Redirection) (flags : Flags) :
    Run Nat := do
  Run.update fun p => { p with line }
  let ready ← Redirect.prepare e redirections
  let run (flags : Flags) : Run Nat := do
    if !(← Redirect.apply e ready) then
      Run.setStatus 2
      throw .failed
    e.command body { flags with last := true }
  if flags.last && (← Run.process).traps.all (·.2.isEmpty) then run flags
  else
    Engine.join (← e.subshell (fun p => p) do
      let _ ← run flags)

def leavesLoop : Run Bool :=
  modifyGet fun m =>
    let p := m.process
    match p.skip with
    | .none => (false, m)
    | .rest _ => (true, m)
    | .continue =>
      if p.skipCount ≤ 1 then (false, { m with process := { p with skip := .none } })
      else (true, { m with process := { p with skip := .break, skipCount := p.skipCount - 1 } })
    | .break =>
      if p.skipCount ≤ 1 then (true, { m with process := { p with skip := .none } })
      else (true, { m with process := { p with skipCount := p.skipCount - 1 } })

def roundLimit : Nat := 1000000000

def loop (untilSuccess : Bool) (test body : Command) (flags : Flags) : Run Nat := do
  Run.update fun p => { p with loops := p.loops + 1 }
  let status ← iterate .stalled
    (fun (status : Nat) => do
      let tested ← e.command test { tested := true }
      let skip := (← Run.process).skip
      if skip != .none then
        let leaves ← leavesLoop
        let status := match skip with
          | .rest _ => tested
          | _ => status
        return if leaves then .inr status else .inl status
      else if (tested == 0) == untilSuccess then return .inr status
      else
        let status ← e.command body { tested := flags.tested }
        return if ← leavesLoop then .inr status else .inl status)
    roundLimit 0
  Run.update fun p => { p with loops := p.loops - 1 }
  return status

def eachValue (name : Bytes) (body : Command) (flags : Flags) :
    List Bytes → Nat → Run Nat
  | [], status => return status
  | value :: rest, _ => do
    Run.assign name value false
    let status ← e.command body { tested := flags.tested }
    if ← leavesLoop then return status else eachValue name body flags rest status

def each (line : Nat) (name : Bytes) (words : List Word) (body : Command) (flags : Flags) :
    Run Nat := do
  Run.update fun p => { p with line }
  let values ← words.mapM (Expansion.fields e)
  Run.update fun p => { p with loops := p.loops + 1 }
  let status ← eachValue e name body flags values.flatten 0
  Run.update fun p => { p with loops := p.loops - 1 }
  return status

def anyMatches (text : Bytes) : List Word → Run Bool
  | [] => return false
  | w :: rest => do
    if ← Expansion.matches? e w text then return true else anyMatches text rest

def chooseFrom (text : Bytes) (flags : Flags) : List Choice → Run Nat
  | [] => return 0
  | .mk patterns body :: rest => do
    if ← anyMatches e text patterns then
      match body with
      | some c => e.command c flags
      | none => return 0
    else chooseFrom text flags rest

def sequence (flags : Flags) : List Command → Nat → Run Nat
  | [], status => return status
  | [c], _ => e.command c flags
  | c :: rest, _ => do
    let status ← e.command c { tested := flags.tested }
    if (← Run.process).skip != .none then return status else sequence flags rest status

def dispatch (c : Command) (flags : Flags) : Run Bool := do
  let inside := fun (run : Run Nat) => do
    Run.setStatus (← run)
    return false
  let checked := fun (run : Run Nat) => do
    Run.setStatus (← run)
    return !flags.tested
  match c with
  | .simple line assignments words redirections =>
    checked (simple e line assignments words redirections flags)
  | .pipeline commands true =>
    checked do
      e.background (.pipeline commands false)
      return 0
  | .pipeline commands false => checked (pipeline e commands flags)
  | .subshell line body redirections => checked (subshell e line body redirections flags)
  | .background line body redirections =>
    checked do
      e.background (if redirections.isEmpty then body else .redirected line body redirections)
      return 0
  | .redirected line body redirections =>
    inside do
      Run.update fun p => { p with line }
      let descriptors := (← Run.process).descriptors
      guarded (Run.update fun p => { p with descriptors })
        (Redirect.within e redirections (e.command body { tested := flags.tested }))
  | .sequence commands =>
    inside (sequence e flags commands 0)
  | .negation body =>
    inside do return if (← e.command body { tested := true }) = 0 then 1 else 0
  | .both left right =>
    inside do
      let status ← e.command left { tested := true }
      if status ≠ 0 || (← Run.process).skip != .none then return status
      e.command right flags
  | .either left right =>
    inside do
      let status ← e.command left { tested := true }
      if status = 0 || (← Run.process).skip != .none then return status
      e.command right flags
  | .branch test yes no =>
    inside do
      let status ← e.command test { tested := true }
      if (← Run.process).skip != .none then return status
      else if status = 0 then e.command yes flags
      else
        match no with
        | some c => e.command c flags
        | none => return 0
  | .loop untilSuccess test body => inside (loop e untilSuccess test body flags)
  | .each line name words body => inside (each e line name words body flags)
  | .choose line subject choices =>
    inside do
      Run.update fun p => { p with line }
      chooseFrom e (← Expansion.single e subject) flags choices
  | .define line name body =>
    inside do
      Run.update fun p => { p with functions := Run.bound name (line, body) p.functions }
      return 0

def command (c : Command) (flags : Flags) : Run Nat := do
  Run.step
  if !(← Run.process).options.contains 'n' then
    e.runTraps
    let ends ← dispatch e c flags
    e.runTraps
    let p ← Run.process
    if ends && p.options.contains 'e' && p.status ≠ 0 then throw .finished
  if flags.last then throw .finished
  return (← Run.process).status

end Gesture.Shell.Evaluation
