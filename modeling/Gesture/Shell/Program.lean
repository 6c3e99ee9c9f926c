import Gesture.Shell.Program.Awk
import Gesture.Shell.Program.Calculation
import Gesture.Shell.Program.Counting
import Gesture.Shell.Program.Date
import Gesture.Shell.Program.Dump
import Gesture.Shell.Program.Encoding
import Gesture.Shell.Program.Ends
import Gesture.Shell.Program.Folding
import Gesture.Shell.Program.Grep
import Gesture.Shell.Program.Joining
import Gesture.Shell.Program.Listing
import Gesture.Shell.Program.Moving
import Gesture.Shell.Program.Nested
import Gesture.Shell.Program.Numbering
import Gesture.Shell.Program.Passing
import Gesture.Shell.Program.Reversing
import Gesture.Shell.Program.Sed
import Gesture.Shell.Program.Sorting
import Gesture.Shell.Program.System
import Gesture.Shell.Program.Tabs
import Gesture.Shell.Program.Translate

namespace Gesture.Shell.Program

abbrev Behaviour := List Bytes → Run Nat

def usual : List (String × Behaviour) :=
  [("true", fun _ => return 0), ("false", fun _ => return 1), ("echo", echo), ("printf", printf),
    ("test", test false), ("[", test true), ("sleep", sleep), ("cat", cat), ("tee", tee), ("yes", yes),
    ("head", head), ("tail", tail), ("wc", wc), ("tac", tac), ("rev", rev), ("paste", paste),
    ("comm", comm), ("fold", fold), ("expand", expand), ("unexpand", unexpand), ("join", join),
    ("nl", nl), ("tr", tr), ("cut", cut),
    ("uniq", uniq), ("sort", sort), ("expr", expr), ("seq", seq), ("basename", basename),
    ("dirname", dirname), ("ls", ls), ("mkdir", mkdir), ("touch", touch), ("ln", ln), ("cp", cp),
    ("mv", mv), ("rm", rm), ("rmdir", rmdir), ("readlink", readlink), ("realpath", realpath),
    ("chmod", chmod), ("chown", chown false), ("chgrp", chown true),
    ("mktemp", mktemp), ("link", link), ("unlink", unlink), ("install", install),
    ("truncate", truncate), ("id", identity), ("whoami", tells "root"),
    ("groups", groups), ("uname", uname), ("arch", tells "x86_64"), ("nproc", tells "1"),
    ("hostname", tells "localhost"), ("tty", tty), ("logname", logname),
    ("stty", terminalSettings), ("pwd", pwd), ("which", which), ("factor", factor), ("date", date),
    ("sync", fun _ => return 0), ("base64", base64), ("base32", base32), ("od", od), ("grep", grep .basic),
    ("egrep", grep .extended), ("fgrep", grep .fixed)]

def nested (e : Engine) : List (String × Behaviour) :=
  [("sh", shell e), ("dash", shell e), ("env", environment e), ("printenv", printEnvironment),
    ("nohup", plainWrapper e "" "failed to run command " inQuotes),
    ("nice", plainWrapper e "n:" "" inRoundQuotes),
    ("setsid", plainWrapper e "cfw" "failed to execute " shown),
    ("timeout", timeout e), ("xargs", passArguments e), ("awk", awk e), ("mawk", awk e), ("sed", sed e)]

def nestedNames : List String :=
  ["sh", "dash", "env", "printenv", "nohup", "nice", "setsid", "timeout", "xargs", "awk",
    "mawk", "sed"]

def names : List String :=
  usual.map (·.1) ++ nestedNames

/-- Runs a program; if it could not write all of its output, that shows in its status. With an input
    that has no end it does not end either. -/
def checked (program : Behaviour) (arguments : List Bytes) : Run Nat := do
  let status ← program arguments
  if (← Run.process).unfinished then Run.writeForever 1
  return if (← Run.process).outputFailed then max status 1 else status

def ofName? (e : Engine) (name : Bytes) : Option Behaviour :=
  let name := String.ofList name
  (((usual.lookup name).or ((nested e).lookup name))).map checked

end Gesture.Shell.Program
