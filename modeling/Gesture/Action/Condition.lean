import Gesture.Action.Error
import Gesture.Json
import Gesture.Regex
import Gesture.Text.Blank
import Gesture.Text.Case

namespace Gesture

inductive Condition where
  | always
  | locked
  | unlocked
  | home
  | noApp
  | anyApp
  | android
  | app (regex : String)
  | title (regex : String)
  deriving DecidableEq, Repr

namespace Condition

def words : List (String × Condition) :=
  [("always", .always), ("screenlocked", .locked), ("screenunlocked", .unlocked), ("home", .home),
    ("noapp", .noApp), ("anyapp", .anyApp), ("android", .android)]

def ofWord? (word : String) : Option Condition :=
  words.lookup word

def startsWithLetters : List Char → List Char → Bool
  | [], _ => true
  | _, [] => false
  | w :: word, c :: text => Text.sameLetter w.toNat c.toNat && startsWithLetters word text

def argument? (word : String) (text : List Char) : Option (List Char) :=
  if startsWithLetters word.toList text then
    match text.drop word.length with
    | '(' :: rest => if rest.getLast? = some ')' then some rest.dropLast else none
    | _ => none
  else none

def withRegex (text : String) (make : String → Condition) (regex : List Char) :
    Except ReadError Condition :=
  let regex := String.ofList regex
  match Regex.compile regex with
  | .ok _ => .ok (make regex)
  | .error (.invalid cause position) =>
    .error (.refused (.invalidRegex regex text cause position))
  | .error .countTooLarge => .error (.beyond .countTooLarge)
  | .error (.digitLimit digits) => .error (.beyond (.digits digits))
  | .error .conflictingFlags => .error (.beyond .conflictingFlags)
  | .error .distantLookbehind | .error .crossedGroup => .error (.beyond .distantLookbehind)

def expression? (text : String) : Option String :=
  let body := Text.strip text.toList
  match ofWord? (String.ofList (Text.lower body)) with
  | some _ => none
  | none => ((argument? "app" body).or (argument? "window" body)).map String.ofList

def parse (text : String) : Except ReadError Condition :=
  let body := Text.strip text.toList
  match ofWord? (String.ofList (Text.lower body)) with
  | some c => .ok c
  | none =>
    match argument? "app" body, argument? "window" body with
    | some regex, _ => withRegex text .app regex
    | none, some regex => withRegex text .title regex
    | none, none => .error (.refused (.unknownCondition text))

def unknownMessage (value : Json) : String :=
  "Don't know how to evaluate " ++ String.ofList value.literal

end Condition

end Gesture
