import Gesture.Action.Error
import Gesture.Json
import Gesture.Text.Blank
import Gesture.Text.Digit

namespace Gesture

inductive Builtin where
  | toggleFlashlight
  | screenshot
  | reboot
  | shutdown
  | openCamera
  | openCameraSelfie
  | newAlarm
  | newNote
  | writeEmail
  deriving DecidableEq, Repr

namespace Builtin

def all : List Builtin :=
  [.toggleFlashlight, .screenshot, .reboot, .shutdown, .openCamera, .openCameraSelfie, .newAlarm,
    .newNote, .writeEmail]

def word : Builtin → String
  | .toggleFlashlight => "toggle-flashlight"
  | .screenshot => "screenshot"
  | .reboot => "reboot"
  | .shutdown => "shutdown"
  | .openCamera => "open-camera"
  | .openCameraSelfie => "open-camera-selfie"
  | .newAlarm => "new-alarm"
  | .newNote => "new-note"
  | .writeEmail => "write-email"

def ofWord? (word : String) : Option Builtin :=
  all.find? (·.word = word)

def unknownMessage (word : String) : String :=
  Text.quoted word ++ " is not a valid BuiltinAction"

end Builtin

inductive Kind where
  | shell (command : String)
  | repeating (interval : Nat) (command : String)
  | builtin (b : Builtin)
  deriving DecidableEq, Repr

namespace Kind

def between? (opening text : List Char) : Option (List Char) :=
  if opening.isPrefixOf text then
    let rest := text.drop opening.length
    if rest.getLast? = some ')' then some rest.dropLast else none
  else none

/-- The digits of the interval and the command, if the text inside the parentheses of a repetition
    has the form of one. -/
def intervalAndCommand? (inside : List Char) : Option (List Char × List Char) :=
  let digits := inside.takeWhile Text.isDigit
  match digits, inside.dropWhile Text.isDigit with
  | [], _ => none
  | _, ',' :: command => some (digits, command)
  | _, _ => none

def parseRepeating (text : String) (digits command : List Char) : Except ReadError Kind :=
  if Text.digitLimit < digits.length then .error (.beyond (.digits digits.length))
  else
    let interval := Text.decimalValue digits
    let command := Text.strip command
    if interval = 0 then .error (.refused (.intervalNotPositive text))
    else if command.isEmpty then .error (.refused (.emptyCommand text))
    else .ok (.repeating interval (String.ofList command))

/-- The action that a text asks for: `cmd(…)`, `repeat(…,…)` or the word for a built-in action. -/
def parse (text : String) : Except ReadError Kind :=
  match between? "cmd(".toList text.toList with
  | some inside =>
    let command := Text.strip inside
    if command.isEmpty then .error (.refused (.emptyCommand text))
    else .ok (.shell (String.ofList command))
  | none =>
    match (between? "repeat(".toList text.toList).bind intervalAndCommand? with
    | some (digits, command) => parseRepeating text digits command
    | none =>
      match Builtin.ofWord? text with
      | some b => .ok (.builtin b)
      | none => .error (.refused (.unknownAction text))

def unknownMessage (value : Json) : String :=
  "Don't know how to run " ++ String.ofList value.literal

end Kind

end Gesture
