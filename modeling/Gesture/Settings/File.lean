import Gesture.Files
import Gesture.Json.Parser
import Gesture.Settings
import Gesture.Text.Lines
import Gesture.Text.Utf8

namespace Gesture

inductive TextFileError where
  | file (error : FileError)
  | stray (stray : CodeText.Stray)
  | nullCharacter
  | encoding (error : Text.Utf8.DecodeError)
  deriving DecidableEq, Repr

def TextFileError.message (path : Path) : TextFileError → String
  | .file e => e.message path
  | .stray s => s.message
  | .nullCharacter => "embedded null byte"
  | .encoding e => e.message

abbrev FileReader := Path → Except FileError (List UInt8)

def Path.fault? (path : Path) : Option TextFileError :=
  match path.text.stray? with
  | some s => some (.stray s)
  | none => if .char '\x00' ∈ path.text then some .nullCharacter else none

def readTextFile (reader : FileReader) (path : Path) : Except TextFileError (List Char) :=
  match path.fault? with
  | some e => .error e
  | none =>
    match reader path with
    | .error e => .error (.file e)
    | .ok bytes => ((Text.Utf8.decode bytes).map Text.unifyLineEnds).mapError .encoding

def writeTextFile (files : Files) (path : Path) (text : List Char) : Except TextFileError Files :=
  match path.fault? with
  | some e => .error e
  | none => (files.write path (Text.Utf8.encode text)).mapError .file

namespace Settings

inductive LoadError where
  | file (error : TextFileError)
  | json (error : Json.Error)
  | fields (errors : List FieldError)
  | notAnObject
  deriving DecidableEq, Repr

def fieldsMessage (errors : List FieldError) : String :=
  "While structuring Settings (" ++ toString errors.length ++ " sub-exception" ++
  (if errors.length = 1 then "" else "s") ++ ")"

def LoadError.reason (path : Path) : LoadError → String
  | .file e => e.message path
  | .json e => e.message
  | .fields errors => fieldsMessage errors
  | .notAnObject => "not an object"

def LoadError.message (path : Path) (e : LoadError) : String :=
  "Unable to load settings from " ++ path.shown ++ ": " ++ e.reason path

def ofText (stack : Stack) (path : Path) (text : List Char) : Except LoadError Settings :=
  match Json.parse (stack.json text) text with
  | .error e => .error (.json e)
  | .ok (.object members) =>
    (ofMembers stack (Json.setMember "_path" (.str path.text) members)).mapError .fields
  | .ok _ => .error .notAnObject

def load (stack : Stack) (reader : FileReader) (path : Path) : Except LoadError Settings :=
  match readTextFile reader path with
  | .error e => .error (.file e)
  | .ok text => ofText stack path text

def save (files : Files) (s : Settings) (dest : Option Path) : Except TextFileError Files :=
  writeTextFile files (dest.getD s.path) s.fileText

end Settings

end Gesture
