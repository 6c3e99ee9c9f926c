import Gesture.Shell.Builtin.Basic
import Gesture.Shell.Expansion

namespace Gesture.Shell.Builtin

def showVariables (before : String) (shown : Variable → Bool) : Run Unit := do
  let chosen := (← Run.process).bindings.filter fun v => shown v.2
  let sorted := chosen.mergeSort fun a b => Bytes.isSorted a.1 b.1
  sorted.forM fun (name, v) => do
    let value := match v.value with
      | some value => '=' :: quoted value
      | none => []
    outLine (before.toList ++ name ++ value)

def nameOf (argument : Bytes) : Run Bytes := do
  let name := argument.takeWhile (· != '=')
  if isName name then return name
  else Run.failWith (name ++ ": bad variable name".toList)

def mark (builtin : String) (has : Variable → Bool) (change : Variable → Variable)
    (arguments : List Bytes) : Run Nat := do
  let (options, names) ← optionsOf "p" arguments
  if !options.isEmpty || names.isEmpty then
    showVariables (builtin ++ " ") has
    return 0
  names.forM fun argument => do
    let name ← nameOf argument
    if argument.contains '=' then Run.assign name (argument.drop (name.length + 1)) false
    let old := (← Run.bindingOf? name).getD { value := none }
    Run.setVariable name (change old)
  return 0

def declare (arguments : List Bytes) : Run Nat := do
  if (← Run.process).hidden.isEmpty then Run.failWith "not in a function".toList
  arguments.forM fun argument => do
    if argument == ['-'] then
      Run.update fun p =>
        match p.hiddenOptions with
        | frame :: outer => { p with hiddenOptions := frame.or (some p.options) :: outer }
        | [] => p
    else
      let builtin := (← Run.process).builtin
      Run.update fun p => { p with builtin := none }
      let name ← nameOf argument
      Run.update fun p => { p with builtin }
      Run.hide name
      if argument.contains '=' then Run.assign name (argument.drop (name.length + 1)) false
  return 0

def unset (arguments : List Bytes) : Run Nat := do
  let (options, names) ← optionsOf "vf" arguments
  let functions := options.getLast?.map (·.1) == some 'f'
  names.forM fun name => do
    if functions then
      Run.update fun p => { p with functions := p.functions.filter (·.1 != name) }
    else
      Run.unset (← nameOf name)
  return 0

def optionNames : List (String × Char) :=
  [("errexit", 'e'), ("noglob", 'f'), ("ignoreeof", 'I'), ("interactive", 'i'), ("monitor", 'm'),
    ("noexec", 'n'), ("stdin", 's'), ("xtrace", 'x'), ("verbose", 'v'), ("vi", 'V'), ("emacs", 'E'),
    ("noclobber", 'C'), ("allexport", 'a'), ("notify", 'b'), ("nounset", 'u'), ("nolog", '1'),
    ("debug", '2')]

def setOption (letter : Char) (on : Bool) : Run Unit := do
  if letter.isDigit || !(optionNames.map (·.2)).contains letter then
    Run.failWith ("Illegal option -".toList ++ [letter])
  Run.update fun p =>
    let others := p.options.filter (· != letter)
    { p with options := if on then letter :: others else others }

def setNamedOption (name : Bytes) (on : Bool) : Run Unit := do
  match optionNames.find? (·.1.toList == name) with
  | some (_, letter) => if letter.isDigit then pure () else setOption letter on
  | none => Run.failWith ("Illegal option -o ".toList ++ name)

def showOptions (asCommands : Bool) : Run Unit := do
  let p ← Run.process
  if !asCommands then outLine "Current option settings".toList
  optionNames.forM fun (name, letter) => do
    let on := p.options.contains letter
    if asCommands then outLine ((if on then "set -o " else "set +o ") ++ name).toList
    else
      let fill := String.ofList (List.replicate (16 - name.length) ' ')
      outLine (name ++ fill ++ (if on then "on" else "off")).toList

def setLetters (on : Bool) (rest : List Bytes) (letters : Bytes) : Run (List Bytes) :=
  letters.foldlM
    (fun rest letter => do
      if letter == 'o' then
        match rest with
        | name :: rest =>
          setNamedOption name on
          return rest
        | [] =>
          showOptions (!on)
          return []
      else
        setOption letter on
        return rest)
    rest

def setOptions (arguments : List Bytes) : Run (Option (List Bytes)) :=
  iterate .stalled
    (fun (arguments : List Bytes) => do
      match arguments with
      | [] => return .inr none
      | ['-'] :: rest =>
        Run.update fun p => { p with options := p.options.filter fun c => c != 'x' && c != 'v' }
        return .inr (if rest.isEmpty then none else some rest)
      | ['-', '-'] :: rest => return .inr (some rest)
      | ('-' :: letters) :: rest => return .inl (← setLetters true rest letters)
      | ('+' :: letters) :: rest => return .inl (← setLetters false rest letters)
      | arguments => return .inr (some arguments))
    100000 arguments

def setArguments (arguments : List Bytes) : Run Unit :=
  Run.update fun p => { p with arguments, optionNumber := 1, optionOffset := none }

def set (arguments : List Bytes) : Run Nat := do
  if arguments.isEmpty then showVariables "" fun v => v.value.isSome
  else
    match ← setOptions arguments with
    | some rest => setArguments rest
    | none => pure ()
  return 0

def shift (arguments : List Bytes) : Run Nat := do
  let n ← match arguments with
    | a :: _ => numberOf a
    | [] => pure 1
  let p ← Run.process
  if p.arguments.length < n then Run.failWith "can't shift that many".toList
  setArguments (p.arguments.drop n)
  return 0

/-- What reading an option comes to: the option, its argument, whether options are at their end, and
    where the next one starts. -/
structure OptionRead where
  option : Char
  argument : Option Bytes
  done : Bool := false
  number : Nat
  offset : Option Nat := none
  complaint : String := ""

def optionLetters? (p : Process) (arguments : List Bytes) : Nat × Option Bytes :=
  let number := p.optionNumber
  let inside := do
    let offset ← p.optionOffset
    if number ≤ 1 then none
    else
      let argument ← arguments[number - 2]?
      if argument.length < offset then none else some (argument.drop offset)
  match inside with
  | some (c :: rest) => (number, some (c :: rest))
  | _ =>
    match arguments[number - 1]? with
    | some ['-', '-'] => (number + 1, none)
    | some ('-' :: c :: rest) => (number + 1, some (c :: rest))
    | _ => (number, none)

def nextOption (p : Process) (letters : Bytes) (arguments : List Bytes) : OptionRead :=
  let quiet := letters.head? == some ':'
  match optionLetters? p arguments with
  | (number, none) => ⟨'?', none, true, number, none, ""⟩
  | (number, some []) => ⟨'?', none, true, number, none, ""⟩
  | (number, some (c :: rest)) =>
    let offset (after : Bytes) : Option Nat :=
      (arguments[number - 2]?).map fun a => a.length - after.length
    if c == ':' || !letters.contains c then
      if quiet then ⟨'?', some [c], false, number, offset rest, ""⟩
      else ⟨'?', none, false, number, offset rest, "Illegal option -" ++ c.toString ++ "\n"⟩
    else if (letters.dropWhile (· != c))[1]? != some ':' then
      ⟨c, some [], false, number, offset rest, ""⟩
    else if !rest.isEmpty then ⟨c, some rest, false, number, none, ""⟩
    else
      match arguments[number - 1]? with
      | some argument => ⟨c, some argument, false, number + 1, none, ""⟩
      | none =>
        if quiet then ⟨':', some [c], false, number, none, ""⟩
        else ⟨'?', none, false, number, none, "No arg for -" ++ c.toString ++ " option\n"⟩

def getopts (arguments : List Bytes) : Run Nat := do
  match arguments with
  | letters :: name :: given =>
    let p ← Run.process
    let arguments := if given.isEmpty then p.arguments else given
    let p := if arguments.length + 1 < p.optionNumber then
        { p with optionNumber := 1, optionOffset := none }
      else p
    let r := nextOption p letters arguments
    Run.say 2 r.complaint.toList
    if !r.done then
      match r.argument with
      | some argument => Run.assign "OPTARG".toList argument false
      | none => Run.unset "OPTARG".toList
    Run.assign "OPTIND".toList (Run.number r.number) false
    Run.assign (← nameOf name) [r.option] false
    Run.update fun p => { p with optionNumber := r.number, optionOffset := r.offset }
    return if r.done then 1 else 0
  | _ => Run.failWith "Usage: getopts optstring var [arg...]".toList

def showAlias (name value : Bytes) : Run Unit :=
  outLine (name ++ '=' :: quoted value)

def defineAliases (arguments : List Bytes) : Run Nat := do
  if arguments.isEmpty then
    (← Run.process).aliases.forM fun (name, value) => showAlias name value
    return 0
  arguments.foldlM
    (fun status argument => do
      let name := argument.take 1 ++ (argument.drop 1).takeWhile (· != '=')
      if name.length < argument.length then
        let value := argument.drop (name.length + 1)
        Run.update fun p => { p with aliases := Run.bound name value p.aliases }
        return status
      else
        match (← Run.process).aliases.lookup argument with
        | some value =>
          showAlias argument value
          return status
        | none =>
          Run.say 2 ("alias: ".toList ++ argument ++ " not found\n".toList)
          return 1)
    0

def unalias (arguments : List Bytes) : Run Nat := do
  let (options, names) ← optionsOf "a" arguments
  if !options.isEmpty then
    Run.update fun p => { p with aliases := [] }
    return 0
  names.foldlM
    (fun status name => do
      if ((← Run.process).aliases.lookup name).isSome then
        Run.update fun p => { p with aliases := p.aliases.filter (·.1 != name) }
        return status
      else
        Run.say 2 ("unalias: ".toList ++ name ++ " not found\n".toList)
        return 1)
    0

/-- A line, with backslashes taken as escapes unless `raw`: its cells, and whether a line end closes
    it. -/
def readCells (raw : Bool) : Run (List Cell × Bool) :=
  iterate .stalled
    (fun (before : List Cell) => do
      match ← Run.receiveLine 0 with
      | .error _ => return .inr (before ++ [.stop], false)
      | .ok (line, ended) =>
        let line := line.filter (· != '\x00')
        if raw then
          return .inr (before ++ line.map (fun c => .char c false) ++ [.stop], ended)
        let (cells, open_) := escapedCells line
        if open_ && ended then return .inl (before ++ cells)
        else return .inr (before ++ cells ++ [.stop], ended))
    1000000 [.start false]
where
  escapedCells : Bytes → List Cell × Bool
    | '\\' :: c :: rest =>
      let (cells, open_) := escapedCells rest
      (.stop :: .char c true :: .start false :: cells, open_)
    | ['\\'] => ([.stop, .start false], true)
    | c :: rest =>
      let (cells, open_) := escapedCells rest
      (.char c false :: cells, open_)
    | [] => ([], false)

def assignFields : List Bytes → List Bytes → Run Unit
  | [], _ => pure ()
  | name :: names, fields => do
    Run.assign (← nameOf name) (fields.headD []) false
    assignFields names fields.tail

def read (arguments : List Bytes) : Run Nat := do
  let (options, names) ← optionsOf "p:r" arguments
  if names.isEmpty then Run.failWith "arg count".toList
  let (cells, ended) ← readCells (options.any (·.1 == 'r'))
  let separators := (Run.valueOf (← Run.process) "IFS").getD Fields.usualSeparators
  let fields := Fields.split separators (some names.length) cells
  assignFields names (fields.map Cell.plain)
  return if ended then 0 else 1

end Gesture.Shell.Builtin
