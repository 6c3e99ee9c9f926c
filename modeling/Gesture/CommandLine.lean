import Gesture.Action.Command
import Gesture.Action.Overrun
import Gesture.Host.Commands
import Gesture.Recognizer
import Gesture.Settings.File

namespace Gesture.CommandLine

/-- The three command lines: one checks a table of actions and prints it, one runs it, and one prints
    button events as they come. -/
inductive Program where
  | check
  | run
  | events
  deriving DecidableEq, Repr

def Program.name : Program → String
  | .check => "buttonactions-check"
  | .run => "buttonactions"
  | .events => "buttonactions-events"

/-- How a command line ends and what it writes, without the warnings about expressions that compile. -/
structure Report where
  code : Nat := 0
  output : String := ""
  errors : String := ""
  logs : List LogLine := []
  deriving DecidableEq, Repr

inductive Failure where
  | settingsNotAnObject
  | settingsTooDeep
  | table (error : TextFileError)
  | tableLimit (limit : Limit)
  | tableTooDeep
  | lineTooDeep
  | recognizer (failure : Recognizer.Failure)
  | elapsed (error : ElapsedError)
  deriving DecidableEq, Repr

abbrev Fault := String ⊕ Failure

def loadSettings (stack : Stack) (reader : FileReader) (path : Path) : Except Fault Settings :=
  match Settings.load stack reader path with
  | .ok s => .ok s
  | .error .notAnObject => .error (.inr .settingsNotAnObject)
  | .error (.json .tooDeep) => .error (.inr .settingsTooDeep)
  | .error e => .error (.inl (e.message path))

def loadedLine (path : Path) (table : List Action) : LogLine :=
  ⟨.debug, "Loaded " ++ toString table.length ++ " actions from " ++ path.shown, none⟩

def loadTable (stack : Stack) (reader : FileReader) (s : Settings) :
    Except Fault (List Action × LogLine) :=
  let path := s.resolve s.actionsPath
  match readTextFile reader path with
  | .error (.file e) =>
    .error (.inl ("Unable to read actions from " ++ path.shown ++ ": " ++ e.message path))
  | .error e => .error (.inr (.table e))
  | .ok text =>
    if Action.overruns stack (String.ofList text) then .error (.inr .tableTooDeep)
    else
      match Action.compile (String.ofList text) with
      | .ok table => .ok (table, loadedLine path table)
      | .error (.refused r) => .error (.inl r.message)
      | .error (.beyond l) => .error (.inr (.tableLimit l))

def reported (program : Program) : Except Fault Report → Except Failure Report
  | .ok r => .ok r
  | .error (.inl message) =>
    .ok { code := 1, errors := program.name ++ ": " ++ message ++ "\n" }
  | .error (.inr f) => .error f

def printed (stack : Stack) (table : List Action) : Except Fault String :=
  if table.any (stack.overrunsShortForm ·.pattern) then .error (.inr .lineTooDeep)
  else .ok (String.join (table.map fun a => a.line ++ "\n"))

def check (stack : Stack) (reader : FileReader) (settings : Path) : Except Failure Report :=
  reported .check do
    let s ← loadSettings stack reader settings
    let (table, line) ← loadTable stack reader s
    return { output := ← printed stack table, logs := [line] }

def stepLog (shell : Shell) (s : Settings) (step : Recognizer.Step) : List LogLine :=
  step.logLine?.toList ++
    match step with
    | .executed a =>
      a.executionLog s.builtinCommands ++
        ((a.command? s.builtinCommands).map shell.runLog).getD []
    | _ => []

/-- Recognizes gestures in what arrives until the input ends, which for settings without inputs is
    at once. -/
def recognize (shell : Shell) (s : Settings) (table : List Action)
    (arrivals : List Recognizer.Arrival) (endTime : Rat) : Except Fault (List LogLine) :=
  let recognizer : Recognizer := ⟨table, s.host shell, Regex.textOf s.androidPattern⟩
  let buffer : Buffer := ⟨s.patternMaxMillis, s.accidentalDoubleMillis, []⟩
  let o := recognizer.run buffer arrivals endTime
  match o.failure with
  | some f => .error (.inr (.recognizer f))
  | none => .ok (o.entries.flatMap fun e => stepLog shell s e.step)

def run (stack : Stack) (shell : Shell) (reader : FileReader) (settings : Path)
    (arrivals : List Recognizer.Arrival) (endTime : Rat) : Except Failure Report :=
  reported .run do
    let s ← loadSettings stack reader settings
    let (table, line) ← loadTable stack reader s
    let count : LogLine := ⟨.info, "Loaded " ++ toString table.length ++ " actions", none⟩
    return { logs := line :: count :: (← recognize shell s table arrivals endTime) }

def padded (width : Nat) (text : String) : String :=
  text.pushn ' ' (width - text.length)

def eventLine (e : Event) (b : Buffer) : String :=
  padded 20 e.button.displayName ++ " " ++ padded 8 e.edge.word ++ " +" ++ toString e.elapsed ++
  "ms  " ++ b.condensed ++ "\n"

def showEvents (stack : Stack) (b : Buffer) :
    List Event → Except Failure (List String × List LostEdge × Buffer)
  | [] => .ok ([], [], b)
  | e :: rest => do
    let after := b.append e
    if stack.overrunsShortForm after.tokens then throw .lineTooDeep
    let (lines, lost, last) ← showEvents stack after rest
    return (eventLine e after :: lines, b.appendLost e ++ lost, last)

def showRaws (stack : Stack) (d : Decoder) (b : Buffer) :
    List Raw → Except Failure (List String × List LostEdge)
  | [] => .ok ([], [])
  | raw :: rest => do
    let (events, d) ← (d.decode raw).mapError .elapsed
    let (lines, lost, b) ← showEvents stack b events
    let (more, moreLost) ← showRaws stack d b rest
    return (lines ++ more, lost ++ moreLost)

def events (stack : Stack) (reader : FileReader) (settings : Path) (raws : List Raw) :
    Except Failure Report :=
  reported .events do
    let s ← loadSettings stack reader settings
    let buffer : Buffer := ⟨s.patternMaxMillis, s.accidentalDoubleMillis, []⟩
    let (lines, lost) ← (showRaws stack {} buffer raws).mapError .inr
    return { output := String.join lines,
             logs := lost.map fun l => ⟨.warning, l.message, none⟩ }

end Gesture.CommandLine
