import Gesture.Action.Kind
import Gesture.Duration
import Gesture.Json.Printer
import Gesture.Path
import Gesture.Snapshot
import Gesture.Stack

namespace Gesture

/-- Settings: where the table of actions is, which inputs to read, the thresholds of gestures, and
    the commands that ask the host or do the built-in actions. -/
structure Settings where
  path : Path
  actionsPath : Path
  inputDevices : List Path
  virtualButtonPipe : Option Path
  grabDevices : Bool
  patternMax : Duration
  accidentalDouble : Duration
  queryTimeout : Duration
  lockedCommand : Option CodeText
  foregroundCommand : Option CodeText
  titleCommand : Option CodeText
  androidPattern : CodeText
  builtinCommands : List (Builtin × CodeText)
  deriving DecidableEq, Repr

namespace Settings

def sessionCall : String := "dbus-send --session --type=method_call"

def systemCall : String := "dbus-send --system --type=method_call"

def defaultCommand : Builtin → String
  | .toggleFlashlight =>
    sessionCall ++ " --dest=com.jolla.settings.system.flashlight " ++
    "/com/jolla/settings/system/flashlight " ++
    "com.jolla.settings.system.flashlight.toggleFlashlight"
  | .screenshot =>
    sessionCall ++ " --dest=org.nemomobile.lipstick /org/nemomobile/lipstick/screenshot " ++
    "org.nemomobile.lipstick.saveScreenshot " ++
    "string:\"$HOME/Pictures/Screenshots/Screenshot_$(date +%Y%m%d_%H%M%S).png\""
  | .reboot =>
    systemCall ++ " --dest=com.nokia.dsme /com/nokia/dsme/request " ++
    "com.nokia.dsme.request.req_reboot"
  | .shutdown =>
    systemCall ++ " --dest=com.nokia.dsme /com/nokia/dsme/request " ++
    "com.nokia.dsme.request.req_shutdown"
  | .openCamera =>
    sessionCall ++ " --dest=com.jolla.camera / com.jolla.camera.ui.showViewfinder array:string:"
  | .openCameraSelfie =>
    sessionCall ++ " --dest=com.jolla.camera / com.jolla.camera.ui.showFrontViewfinder " ++
    "array:string:"
  | .newAlarm => sessionCall ++ " --dest=com.jolla.clock / com.jolla.clock.newAlarm"
  | .newNote => sessionCall ++ " --dest=com.jolla.notes / com.jolla.notes.newNote"
  | .writeEmail =>
    sessionCall ++ " --dest=com.jolla.email.ui /com/jolla/email/ui com.jolla.email.ui.compose"

def resolve (s : Settings) (p : Path) : Path :=
  s.path.parent.join p

def patternMaxMillis (s : Settings) : Int :=
  s.patternMax.toMillis

def accidentalDoubleMillis (s : Settings) : Int :=
  s.accidentalDouble.toMillis

/-- What is wrong with a member: it is missing, it is of a wrong type, it is a collection of which
    some items are wrong, it is a text of the wrong form, a length of time out of range, no value of a
    kind that could be read at all, or nested too deep to be written as a text. -/
inductive Fault where
  | missing
  | wrongType
  | wrongItems
  | badText
  | outOfRange
  | unreadable
  | tooDeep
  deriving DecidableEq, Repr

structure FieldError where
  name : String
  fault : Fault
  deriving DecidableEq, Repr

def readPath : Json → Except Fault Path
  | .str text => .ok (Path.ofText text)
  | _ => .error .wrongType

def readOptional {α : Type} (read : Json → Except Fault α) : Json → Except Fault (Option α)
  | .null => .ok none
  | v => (read v).map some

def itemsOf? : Json → Option (List Json)
  | .array items => some items
  | .str text => some (text.map fun p => .str [p])
  | .object members => some (members.map fun m => .str m.1)
  | _ => none

def readPaths (v : Json) : Except Fault (List Path) :=
  match itemsOf? v with
  | none => .error .wrongType
  | some items => (items.mapM readPath).mapError fun _ => .wrongItems

def durationFault : Duration.Error → Fault
  | .outOfRange => .outOfRange
  | .empty | .invalid .. => .badText

/-- A length of time: a text with units, or a whole number of milliseconds, for which a truth value
    may stand. -/
def readDuration : Json → Except Fault Duration
  | .str text => (Duration.parse text.shown).mapError durationFault
  | .int millis => ((Duration.ofMillis? millis).map .ok).getD (.error .outOfRange)
  | .bool b => ((Duration.ofMillis? (if b then 1 else 0)).map .ok).getD (.error .outOfRange)
  | _ => .error .unreadable

def readText (stack : Stack) (v : Json) : Except Fault CodeText :=
  if stack.literal v < v.depth then .error .tooDeep else .ok v.plain

def readTruth (v : Json) : Except Fault Bool :=
  .ok v.isTruthy

def readCommand (stack : Stack) (m : CodeText × Json) : Except Fault (Builtin × CodeText) :=
  match Builtin.all.find? fun b => CodeText.ofString b.word = m.1 with
  | some b => (readText stack m.2).map fun command => (b, command)
  | none => .error .badText

def readCommands (stack : Stack) : Json → Except Fault (List (Builtin × CodeText))
  | .object members => (members.mapM (readCommand stack)).mapError fun _ => .wrongItems
  | _ => .error .unreadable

/-- The value of a member and its fault, if it has one. A member that is missing has the default. -/
def field {α : Type} (members : List (CodeText × Json)) (name : String)
    (read : Json → Except Fault α) (default : α) : α × List FieldError :=
  match Json.member? name members with
  | none => (default, [])
  | some v =>
    match read v with
    | .ok a => (a, [])
    | .error fault => (default, [⟨name, fault⟩])

def required {α : Type} (members : List (CodeText × Json)) (name : String)
    (read : Json → Except Fault α) (default : α) : α × List FieldError :=
  match Json.member? name members with
  | none => (default, [⟨name, .missing⟩])
  | some _ => field members name read default

def defaultPatternMax : Duration := ⟨350000, by decide, by decide⟩

def defaultAccidentalDouble : Duration := ⟨10000, by decide, by decide⟩

def defaultQueryTimeout : Duration := ⟨1000000, by decide, by decide⟩

/-- The settings that the members of an object give, or all faults in the order of the members of
    settings. -/
def ofMembers (stack : Stack) (members : List (CodeText × Json)) : Except (List FieldError) Settings :=
  let nowhere := Path.ofText []
  let (path, e₁) := required members "_path" readPath nowhere
  let (actionsPath, e₂) := required members "actions_path" readPath nowhere
  let (inputDevices, e₃) := field members "input_devices" readPaths []
  let (pipe, e₄) := field members "virtual_button_fifo" (readOptional readPath) none
  let (grabDevices, e₅) := field members "grab_devices" readTruth false
  let (patternMax, e₆) := field members "pattern_max" readDuration defaultPatternMax
  let (double, e₇) := field members "accidental_double" readDuration defaultAccidentalDouble
  let (timeout, e₈) := field members "query_timeout" readDuration defaultQueryTimeout
  let (locked, e₉) := field members "screen_locked_command" (readOptional (readText stack)) none
  let (foreground, e₁₀) := field members "foreground_window_command" (readOptional (readText stack)) none
  let (title, e₁₁) := field members "window_title_command" (readOptional (readText stack)) none
  let (android, e₁₂) := field members "android_command_pattern" (readText stack) defaultAndroidPattern
  let (builtins, e₁₃) := field members "builtin_actions" (readCommands stack)
    (Builtin.all.map fun b => (b, CodeText.ofString (defaultCommand b)))
  let errors := e₁ ++ e₂ ++ e₃ ++ e₄ ++ e₅ ++ e₆ ++ e₇ ++ e₈ ++ e₉ ++ e₁₀ ++ e₁₁ ++ e₁₂ ++ e₁₃
  if errors.isEmpty then
    .ok ⟨path, actionsPath, inputDevices, pipe, grabDevices, patternMax, double, timeout, locked,
      foreground, title, android, builtins⟩
  else .error errors

def ofOverrides (stack : Stack) (members : List (CodeText × Json)) : Except (List FieldError) Settings :=
  ofMembers stack (members.foldl (fun all m => Json.setMember m.1 m.2 all)
    [("_path", .string "test.settings.json"), ("actions_path", .string "test.actions")])

def optionalText : Option CodeText → Json
  | some t => .str t
  | none => .null

def members (s : Settings) : List (CodeText × Json) :=
  [("actions_path", .str s.actionsPath.text),
    ("input_devices", .array (s.inputDevices.map fun p => .str p.text)),
    ("virtual_button_fifo", optionalText (s.virtualButtonPipe.map (·.text))),
    ("grab_devices", .bool s.grabDevices),
    ("pattern_max", .string s.patternMax.text),
    ("accidental_double", .string s.accidentalDouble.text),
    ("query_timeout", .string s.queryTimeout.text),
    ("screen_locked_command", optionalText s.lockedCommand),
    ("foreground_window_command", optionalText s.foregroundCommand),
    ("window_title_command", optionalText s.titleCommand),
    ("android_command_pattern", .str s.androidPattern),
    ("builtin_actions", .object (s.builtinCommands.map fun c => (c.1.word, .str c.2)))]

def fileText (s : Settings) : List Char :=
  (Json.object s.members).indented 0

end Settings

end Gesture
