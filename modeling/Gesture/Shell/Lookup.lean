import Gesture.Shell.Builtin.Basic

namespace Gesture.Shell.Lookup

inductive Found where
  | builtin (kind : Builtin.Kind)
  | function (line : Nat) (body : Command)
  | program (path : Bytes)
  | missing (reason : FileError)

def usualPath : Bytes :=
  "/usr/local/sbin:/usr/local/bin:/usr/sbin:/usr/bin:/sbin:/bin".toList

def candidates (path name : Bytes) : List Bytes :=
  (path.splitOn ':').map fun directory =>
    if directory.isEmpty then name else directory ++ '/' :: name

def filePath? (m : Machine) (path name : Bytes) : Option Bytes :=
  (candidates path name).find? fun full =>
    match m.tree.look m.process.working full true with
    | .ok (.file _) => true
    | _ => false

def programPath (m : Machine) (path name : Bytes) : Except FileError Bytes :=
  let item? (full : Bytes) : Option Item := (m.tree.lookItem m.process.working full true).toOption
  let isProgram (full : Bytes) : Bool :=
    match item? full with
    | some item => item.isExecutable && item.node != .directory
    | none => false
  let all := candidates path name
  match all.find? isProgram with
  | some full => .ok full
  | none => .error (if all.any fun full => (item? full).isSome then .denied else .missing)

def searchPath (m : Machine) : Bytes :=
  (Run.valueOf m.process "PATH").getD usualPath

def find (m : Machine) (functions usual : Bool) (name : Bytes) : Found :=
  if name.contains '/' then .program name
  else
    let function := if functions then m.process.functions.lookup name else none
    match function, Builtin.kind? name with
    | some (line, body), kind =>
      if (kind.map (·.special)).getD false then .builtin (kind.getD {}) else .function line body
    | none, some kind => .builtin kind
    | none, none =>
      match programPath m (if usual then usualPath else searchPath m) name with
      | .ok full => .program full
      | .error e => .missing e

def failure (e : FileError) : Nat :=
  match e with
  | .missing | .notADirectory | .nameTooLong => 127
  | e => if e == .tooManyLinks then 127 else 126

def failureReason (e : FileError) : String :=
  match e with
  | .missing | .notADirectory => "not found"
  | e => e.reason

variable (e : Engine)

def asProgram (name : Bytes) (p : Process) : Process :=
  { p with
    name
    bindings := p.bindings.filter fun v => v.2.exported && v.2.value.isSome
    hidden := []
    hiddenOptions := []
    arguments := []
    functions := []
    aliases := []
    remembered := []
    options := []
    traps := []
    ignored := p.ignored ++ (p.traps.filter (·.2.isEmpty)).map (·.1)
    caught := []
    jobs := []
    latestJob := none
    skip := .none
    loops := 0
    optionNumber := 1
    optionOffset := none
    line := 1
    builtin := none }

def interpreter? (content : Bytes) : Option (Bytes × List Bytes) :=
  match content with
  | '#' :: '!' :: rest =>
    let isBlank (c : Char) : Bool := c == ' ' || c == '\t'
    let line := ((rest.takeWhile (· != '\n')).reverse.dropWhile isBlank).reverse
    let line := line.dropWhile isBlank
    let name := line.takeWhile fun c => !isBlank c
    let argument := (line.drop name.length).dropWhile isBlank
    if name.isEmpty then none else some (name, if argument.isEmpty then [] else [argument])
  | _ => none

/-- What runs if a path is run with words, of which the first is a name: the name of a program, and
    the words for it. Scripts are run by others; `limit` bounds how many there are. -/
def resolve (m : Machine) : Nat → Bytes → List Bytes → Except FileError (Bytes × List Bytes)
  | 0, _, _ => .error .tooManyLinks
  | limit + 1, path, words => do
    let item ← m.tree.lookItem m.process.working path true
    match item.node with
    | .file content =>
      if !item.isExecutable then throw .denied
      match Tree.programOf? content, interpreter? content with
      | some name, _ => return (name, words)
      | none, some (program, argument) =>
        resolve m limit program (program :: argument ++ path :: words.tail)
      | none, none =>
        if (content.takeWhile (· != '\n')).contains '\x00' then
          throw (.other 8 "Exec format error")
        return ("sh".toList, "/bin/sh".toList :: path :: words.tail)
    | _ => throw .denied

def execute (path : Bytes) (words : List Bytes) : Run Nat := do
  let refuse (error : FileError) : Run Nat := do
    Run.complain (words.headD [] ++ ": ".toList ++ (failureReason error).toList)
    return failure error
  match resolve (← get) 6 path words with
  | .error error => refuse error
  | .ok (name, words) =>
    match e.program? name with
    | none => refuse .missing
    | some program =>
      Run.update (asProgram (words.headD []))
      program words.tail

def fateOf (body : Run Nat) : Run Fate := do
  try return .exited (← body)
  catch
    | .killed signal => return .killed signal
    | .tooDeep => return .killed 11
    | .stalled => return .stalled
    | .full => return .full
    | _ => return .exited (← Run.process).status

def runProgram (path : Bytes) (arguments : List Bytes) : Run Nat := do
  Engine.join (← Engine.inProcess (fun p => p) (fateOf (execute e path arguments)))

def replace {α : Type} (path : Bytes) (arguments : List Bytes) : Run α := do
  Run.setStatus (← execute e path arguments)
  Run.update fun p => { p with savedStatus := none }
  throw .finished

def pathOf (m : Machine) (name : Bytes) : Except FileError Bytes :=
  if name.contains '/' then .ok name else programPath m (searchPath m) name

def describe (verbose usual : Bool) (name : Bytes) : Run Nat := do
  let m ← get
  let say (about : String) (short : Bytes) : Run Nat := do
    Builtin.outLine (if verbose then name ++ about.toList else short)
    return 0
  if (Keyword.ofText? name).isSome then say " is a shell keyword" name
  else
    match m.process.aliases.lookup name with
    | some value =>
      say (" is an alias for " ++ String.ofList value)
        ("alias ".toList ++ name ++ '=' :: Builtin.quoted value)
    | none =>
      let missing : Run Nat := do
        if verbose then Builtin.outLine (name ++ ": not found".toList)
        return 127
      match find m true usual name with
      | .builtin kind =>
        say (if kind.special then " is a special shell builtin" else " is a shell builtin") name
      | .function .. => say " is a shell function" name
      | .program path =>
        if (m.tree.look m.process.working path true).toOption.isNone then missing
        else
          let remembered := !usual && m.process.remembered.contains name
          let about := if remembered then " is a tracked alias for " else " is "
          say (about ++ String.ofList path) path
      | .missing _ => missing

def describeAll (verbose usual : Bool) (names : List Bytes) : Run Nat :=
  names.foldlM (fun status name => do return status ||| (← describe verbose usual name)) 0

def tell (arguments : List Bytes) : Run Nat := do
  let (options, names) ← Builtin.optionsOf "pvV" arguments
  let has (c : Char) : Bool := options.any (·.1 == c)
  match names with
  | name :: _ =>
    if has 'v' || has 'V' then describe (has 'V') (has 'p') name else return 0
  | [] => return 0

def rememberProgram (name : Bytes) : Run Unit :=
  Run.update fun p =>
    if name.contains '/' || p.recalled.contains name then p
    else
      { p with
        remembered := if p.remembered.contains name then p.remembered else name :: p.remembered
        recalled := name :: p.recalled }

def spread (name : Bytes) : Nat :=
  match name with
  | [] => 0
  | c :: _ => (name.foldl (fun sum d => sum + d.toNat) (16 * c.toNat)) % 32768 % 31

/-- Shows the paths of the programs that were found before, with a mark if that was in another working
    directory. -/
def showRemembered : Run Unit := do
  let m ← get
  let names := m.process.remembered.reverse.mergeSort fun a b => decide (spread a ≤ spread b)
  names.forM fun name => do
    match programPath m (searchPath m) name with
    | .ok path =>
      Builtin.outLine (if m.process.recalled.contains name then path else path ++ ['*'])
    | .error _ => pure ()

def remember (arguments : List Bytes) : Run Nat := do
  let (options, names) ← Builtin.optionsOf "r" arguments
  if !options.isEmpty then Run.update fun p => { p with remembered := [], recalled := [] }
  else if names.isEmpty then showRemembered
  names.foldlM
    (fun status name => do
      match find (← get) true false name with
      | .program _ =>
        rememberProgram name
        return status
      | .missing e =>
        Run.complain (name ++ ": ".toList ++ (failureReason e).toList)
        return 1
      | _ => return status)
    0

end Gesture.Shell.Lookup
