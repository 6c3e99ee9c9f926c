import Gesture.Command
import Gesture.Host
import Gesture.Settings
import Gesture.Text.Case
import Gesture.Text.Utf8

namespace Gesture

inductive QueryError where
  | status (command : CodeText) (status : Int)
  | tooSlow (command : CodeText)
  | tooLong (command : CodeText)
  | nullCharacter
  | stray (stray : CodeText.Stray)
  | negativeTimeout
  deriving DecidableEq, Repr

namespace QueryError

def failed (command : CodeText) (cause : String) : String :=
  "Query " ++ command.quoted ++ " failed: " ++ cause

def message : QueryError → String
  | .status command code =>
    failed command
      ("CalledProcessError(" ++ toString code ++ ", " ++ command.quoted ++ ")")
  | .tooSlow command => failed command "TooSlowError()"
  | .tooLong command => failed command "OSError(7, 'Argument list too long')"
  | .nullCharacter => "embedded null byte"
  | .stray s => s.message
  | .negativeTimeout => "\x60seconds\x60 must be non-negative"

end QueryError

def lockedWords : List String :=
  ["1", "true", "yes", "locked", "on"]

namespace Settings

/-- What a command says, without the blanks around it. It has to come to its end in time and with
    status zero. -/
def query (s : Settings) (shell : Shell) : Option CodeText → Except QueryError (Option String)
  | none => .ok none
  | some command =>
    if s.queryTimeout.micros < 0 then .error .negativeTimeout
    else
      match shell command with
      | .error .nullCharacter => .error .nullCharacter
      | .error (.stray s) => .error (.stray s)
      | .error .tooLong => .error (.tooLong command)
      | .ok run =>
        let inTime := match run.elapsed with
          | some time => decide ((time : Int) < s.queryTimeout.micros)
          | none => false
        if !inTime then .error (.tooSlow command)
        else if run.status ≠ 0 then .error (.status command run.status)
        else
          let said := Text.strip (Text.Utf8.decodeLossy run.output)
          .ok (if said.isEmpty then none else some (String.ofList said))

def queryLocked (s : Settings) (shell : Shell) : Except QueryError Bool :=
  (s.query shell s.lockedCommand).map fun
    | some said => lockedWords.contains (String.ofList (Text.lower said.toList))
    | none => false

def queryForeground (s : Settings) (shell : Shell) : Except QueryError (Option String) :=
  s.query shell s.foregroundCommand

def queryTitle (s : Settings) (shell : Shell) : Except QueryError (Option String) :=
  s.query shell s.titleCommand

def reply {α : Type} : Except QueryError α → Reply α
  | .ok a => .answered a
  | .error _ => .failed

def host (s : Settings) (shell : Shell) : Host :=
  ⟨fun _ => reply (s.queryLocked shell), fun _ => reply (s.queryForeground shell),
    fun _ => reply (s.queryTitle shell)⟩

end Settings

end Gesture
