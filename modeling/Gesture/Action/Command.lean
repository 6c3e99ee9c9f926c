import Gesture.Action
import Gesture.Command
import Gesture.Log

namespace Gesture

/-- The command that does what a kind of action stands for. Built-in actions have the commands that
    are configured for them; the first of several counts. -/
def Kind.command? (builtins : List (Builtin × CodeText)) : Kind → Option CodeText
  | .shell command => some command
  | .repeating _ command => some command
  | .builtin b => builtins.lookup b

namespace Action

def command? (builtins : List (Builtin × CodeText)) (a : Action) : Option CodeText :=
  a.kind.command? builtins

def executionLog (builtins : List (Builtin × CodeText)) (a : Action) : List LogLine :=
  match a.command? builtins with
  | some _ => []
  | none => [⟨.error, "No command configured for " ++ a.text, none⟩]

end Action

def Shell.runLog (shell : Shell) (command : CodeText) : List LogLine :=
  ⟨.debug, "Running " ++ command.quoted, none⟩ ::
    match shell command with
    | .error _ => [⟨.error, "Unable to run " ++ command.quoted, none⟩]
    | .ok run =>
      if run.status = 0 then []
      else [⟨.warning, command.quoted ++ " exited with status " ++ toString run.status, none⟩]

end Gesture
