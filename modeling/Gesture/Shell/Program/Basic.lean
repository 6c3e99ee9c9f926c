import Gesture.Shell.Format
import Gesture.Shell.Lookup
import Gesture.Shell.Program.Quoting
import Gesture.Shell.Test

namespace Gesture.Shell.Program

def total (numbers : List Nat) : Nat :=
  numbers.foldl Nat.add 0

def emit (bytes : Bytes) : Run Unit := do
  match ← Run.write 1 bytes with
  | none => pure ()
  | some error =>
    let p ← Run.process
    if !p.outputFailed then
      Run.say 2 (p.name ++ ": write error: ".toList ++ error.reason.toList ++ ['\n'])
    Run.update fun p => { p with outputFailed := true }

def emitLine (bytes : Bytes) : Run Unit :=
  emit (bytes ++ ['\n'])

def ownName : Run Bytes := do
  return (← Run.process).name

def complain (message : String) : Run Unit := do
  Run.say 2 ((← ownName) ++ ": ".toList ++ message.toList ++ ['\n'])

def refuse (status : Nat) (message : String) : Run Nat := do
  complain message
  return status

def hint (status : Nat) : Run Nat := do
  Run.say 2 ("Try '".toList ++ (← ownName) ++ " --help' for more information.\n".toList)
  return status

def misuse (status : Nat) (message : String) : Run Nat := do
  complain message
  hint status

def untilDone {ς β : Type} (step : StateT ς Run (Option β)) : StateT ς Run β := fun s =>
  iterate .stalled
    (fun s => do
      match ← step.run s with
      | (none, s) => return .inl s
      | (some b, s) => return .inr (b, s))
    100000000 s

def openInput (path : Bytes) : Run (Except FileError Nat) := do
  if path == ['-'] then return .ok 0
  match ← Run.openFile .read path with
  | .error e => return .error e
  | .ok number =>
    let d := 100 + number
    Run.update fun p => { p with descriptors := Run.bound d number p.descriptors }
    return .ok d

def contentsOf (path : Bytes) : Run (Except FileError Bytes) := do
  match ← openInput path with
  | .error e => return .error e
  | .ok d => Run.receiveAll d

def knownOf (path : Bytes) : Run (Except FileError Bytes) := do
  match ← openInput path with
  | .error e => return .error e
  | .ok d =>
    match ← Run.receiveKnown d with
    | .error e => return .error e
    | .ok (bytes, endless) =>
      if endless then Run.update fun p => { p with unfinished := true }
      return .ok bytes

/-- The contents of the files of a list, or of the standard input if there are none. Those that
    cannot be read are complained of, after a start; whether all could be read is said as well. -/
def inputsBy (read : Bytes → Run (Except FileError Bytes)) (start : String) (paths : List Bytes) :
    Run (List (Bytes × Bytes) × Bool) := do
  let paths := if paths.isEmpty then [['-']] else paths
  let found ← paths.mapM fun path => do
    if (← Run.process).unfinished then return some (path, [])
    match ← read path with
    | .ok bytes => return some (path, bytes)
    | .error e =>
      complain (start ++ named path ++ ": " ++ e.reason)
      return none
  return (found.filterMap id, found.all (·.isSome))

/-- The whole contents of files, for programs that say nothing before they have seen all of it. -/
def inputsOf (paths : List Bytes) : Run (List (Bytes × Bytes) × Bool) :=
  inputsBy contentsOf "" paths

def streamsOf (paths : List Bytes) : Run (List (Bytes × Bytes) × Bool) :=
  inputsBy knownOf "" paths

def linesBy (ending : Char) (text : Bytes) : List Bytes :=
  let lines := text.splitOn ending
  if lines.getLast? == some [] then lines.dropLast else lines

def linesOf (text : Bytes) : List Bytes :=
  linesBy '\n' text

def padLeft (fill : Char) (width : Nat) (text : Bytes) : Bytes :=
  List.replicate (width - text.length) fill ++ text

def padRight (width : Nat) (text : Bytes) : Bytes :=
  text ++ List.replicate (width - text.length) ' '

/-- Options in the usual style: letters after a dash, some with arguments, and long names after two.
    Options may come after other arguments, unless `strict`. A colon after a letter says that it takes
    an argument, and two of them that the argument has to be in the same word. -/
structure Options where
  letters : List (Char × Bytes) := []
  rest : List Bytes := []

def Options.has (o : Options) (c : Char) : Bool :=
  o.letters.any (·.1 == c)

def Options.last? (o : Options) (c : Char) : Option Bytes :=
  (o.letters.reverse.find? (·.1 == c)).map (·.2)

inductive OptionError where
  | invalid (letter : Char)
  | unknown (name : Bytes)
  | ambiguous (name : Bytes) (possible : List String)
  | missing (letter : Char)
  | missingLong (name : String)
  | unwanted (name : String)
  | help

def OptionError.message : OptionError → String
  | .invalid letter => "invalid option -- '" ++ letter.toString ++ "'"
  | .unknown name => "unrecognized option '" ++ shown name ++ "'"
  | .ambiguous name possible =>
    "option '" ++ shown name ++ "' is ambiguous; possibilities:" ++
      String.join (possible.map fun n => " '--" ++ n ++ "'")
  | .missingLong name => "option '--" ++ name ++ "' requires an argument"
  | .unwanted name => "option '--" ++ name ++ "' doesn't allow an argument"
  | .help => ""
  | .missing letter => "option requires an argument -- '" ++ letter.toString ++ "'"

def takesArgument (letters : String) (letter : Char) : Bool :=
  (letters.toList.dropWhile (· != letter))[1]? == some ':'

def mayTakeArgument (letters : String) (letter : Char) : Bool :=
  takesArgument letters letter && (letters.toList.dropWhile (· != letter))[2]? == some ':'

def longOption (letters : String) (long : List (String × Char)) (name : Bytes)
    (rest : List Bytes) : Except OptionError (Char × Bytes × List Bytes) :=
  let plain := name.takeWhile (· != '=')
  let fitting := long.filter fun (n, _) => plain.isPrefixOf n.toList
  let exact := fitting.filter fun (n, _) => n.toList == plain
  match (exact ++ fitting).head? with
  | none =>
    let isHelp := 1 < plain.length && ["help", "version"].any fun n => plain.isPrefixOf n.toList
    .error (if isHelp then .help else .unknown ("--".toList ++ name))
  | some (full, letter) =>
    if exact.isEmpty && fitting.any fun f => f.2 != letter then
      .error (.ambiguous ("--".toList ++ name) (fitting.map (·.1)))
    else if plain.length < name.length then
      if takesArgument letters letter then .ok (letter, name.drop (plain.length + 1), rest)
      else .error (.unwanted full)
    else if takesArgument letters letter && !mayTakeArgument letters letter then
      match rest with
      | argument :: rest => .ok (letter, argument, rest)
      | [] => .error (.missingLong full)
    else .ok (letter, [], rest)

def readOptions (letters : String) (long : List (String × Char)) (strict : Bool) :
    Nat → List Bytes → Options → Except OptionError Options
  | 0, arguments, o => .ok { o with rest := o.rest.reverse ++ arguments }
  | limit + 1, arguments, o =>
    match arguments with
    | [] => .ok { o with rest := o.rest.reverse }
    | ['-', '-'] :: rest => .ok { o with rest := o.rest.reverse ++ rest }
    | ('-' :: '-' :: name) :: rest =>
      match longOption letters long name rest with
      | .error e => .error e
      | .ok (letter, argument, rest) =>
        readOptions letters long strict limit rest
          { o with letters := o.letters ++ [(letter, argument)] }
    | ('-' :: c :: more) :: rest =>
      if c == ':' || !letters.toList.contains c then .error (.invalid c)
      else if mayTakeArgument letters c then
        readOptions letters long strict limit rest { o with letters := o.letters ++ [(c, more)] }
      else if takesArgument letters c then
        match more, rest with
        | [], argument :: rest =>
          readOptions letters long strict limit rest
            { o with letters := o.letters ++ [(c, argument)] }
        | [], [] => .error (.missing c)
        | _, _ =>
          readOptions letters long strict limit rest
            { o with letters := o.letters ++ [(c, more)] }
      else
        let rest := if more.isEmpty then rest else ('-' :: more) :: rest
        readOptions letters long strict limit rest { o with letters := o.letters ++ [(c, [])] }
    | a :: rest =>
      if strict then .ok { o with rest := o.rest.reverse ++ arguments }
      else readOptions letters long strict limit rest { o with rest := a :: o.rest }

/-- Reads the options of a program and goes on with them; wrong ones give a status of their own. -/
def withOptions (letters : String) (long : List (String × Char)) (strict : Bool) (failure : Nat)
    (arguments : List Bytes) (run : Options → Run Nat) : Run Nat := do
  let size := total (arguments.map (·.length + 1))
  match readOptions letters long strict (size + 1) arguments {} with
  | .ok o => run o
  | .error .help =>
    emitLine ("Usage: ".toList ++ (← ownName) ++ " [OPTION]... [ARGUMENT]...".toList)
    return 0
  | .error e => misuse failure e.message

/-- What `echo` writes as a program: it has options for escapes, which are off unless they are asked
    for. -/
def echoOptions : List Bytes → Bool × Bool → (Bool × Bool) × List Bytes
  | [], o => (o, [])
  | a :: rest, (newline, escapes) =>
    match a with
    | '-' :: c :: letters =>
      if (c :: letters).all fun c => c == 'n' || c == 'e' || c == 'E' then
        echoOptions rest
          ((c :: letters).foldl
            (fun (o : Bool × Bool) c =>
              if c == 'n' then (false, o.2) else if c == 'e' then (o.1, true) else (o.1, false))
            (newline, escapes))
      else ((newline, escapes), a :: rest)
    | _ => ((newline, escapes), a :: rest)

def hexEscape (count : Nat) (text : Bytes) : Option (Char × Bytes) :=
  let digits := (text.take count).takeWhile fun c => (Text.hexValue? c).isSome
  if digits.isEmpty then none
  else
    let n := digits.foldl (fun n c => 16 * n + (Text.hexValue? c).getD 0) 0
    some (Char.ofNat n, text.drop digits.length)

/-- A text of at most `limit` characters with the escapes of `echo` as a program replaced, and
    whether the escape that ends all output was met. -/
def echoText : Nat → Bytes → Bytes → Bytes × Bool
  | 0, before, _ => (before.reverse, false)
  | _ + 1, before, [] => (before.reverse, false)
  | _ + 1, before, '\\' :: 'c' :: _ => (before.reverse, true)
  | limit + 1, before, '\\' :: 'x' :: rest =>
    match hexEscape 2 rest with
    | some (c, after) => echoText limit (c :: before) after
    | none => echoText limit ('x' :: '\\' :: before) rest
  | limit + 1, before, '\\' :: '0' :: rest =>
    let (c, after) := Format.octal 3 0 rest
    echoText limit (c :: before) after
  | limit + 1, before, '\\' :: c :: rest =>
    match Format.letterEscape? c with
    | some e => echoText limit (e :: before) rest
    | none =>
      if (Format.octalValue? c).isSome then
        let (e, after) := Format.octal 3 0 (c :: rest)
        echoText limit (e :: before) after
      else echoText limit (c :: '\\' :: before) rest
  | limit + 1, before, c :: rest => echoText limit (c :: before) rest

def echo (arguments : List Bytes) : Run Nat := do
  let ((newline, escapes), words) := echoOptions arguments (true, false)
  let text := [' '].intercalate words
  let (text, ended) := if escapes then echoText text.length [] text else (text, false)
  emit (if newline && !ended then text ++ ['\n'] else text)
  return 0

def printf (arguments : List Bytes) : Run Nat := do
  if arguments.isEmpty then misuse 1 "missing operand"
  else
    let printed := Format.printf arguments
    printed.complaints.forM fun c => complain (shown c)
    emit printed.text
    return min printed.status 1

def test (bracket : Bool) (arguments : List Bytes) : Run Nat := do
  let m ← get
  match Test.answer ⟨m.tree, m.process.working⟩ bracket arguments with
  | .ok answer => return if answer then 0 else 1
  | .error message => refuse 2 (shown message)

def sleepTime? (argument : Bytes) : Option (Option Nat) :=
  match Decimal.scan? argument with
  | some (.infinite false, rest) => if rest.isEmpty then some none else none
  | some (.finite negative units, rest) =>
    let unit? : Option Nat := match rest with
      | [] | ['s'] => some 1
      | ['m'] => some 60
      | ['h'] => some 3600
      | ['d'] => some 86400
      | _ => none
    if negative && units ≠ 0 then none
    else unit?.map fun unit => some (units * unit * 1000000 / Binary64.one)
  | _ => none

def sleep (arguments : List Bytes) : Run Nat := do
  if arguments.isEmpty then misuse 1 "missing operand"
  else
    match arguments.find? fun a => (sleepTime? a).isNone with
    | some a => misuse 1 ("invalid time interval " ++ inRoundQuotes a)
    | none =>
      let times := arguments.filterMap sleepTime?
      let total := times.foldl (fun total t => do return (← total) + (← t)) (some 0)
      let p ← Run.process
      Run.waitUntil (total.map (p.now + ·))
      return 0

end Gesture.Shell.Program
