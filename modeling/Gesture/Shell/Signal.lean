import Gesture.Text.Digit

namespace Gesture.Shell

inductive SignalEffect where
  | nothing
  | ends
  | stops
  deriving DecidableEq, Repr

namespace Signal

def lowNames : List String :=
  ["HUP", "INT", "QUIT", "ILL", "TRAP", "ABRT", "BUS", "FPE", "KILL", "USR1", "SEGV", "USR2",
    "PIPE", "ALRM", "TERM", "16", "CHLD", "CONT", "STOP", "TSTP", "TTIN", "TTOU", "URG", "XCPU",
    "XFSZ", "VTALRM", "PROF", "WINCH", "IO", "PWR", "SYS", "32", "33"]

/-- The names of all signals from number 1 on. The later ones count from the first or the last of
    them. -/
def names : List String :=
  lowNames ++ ["RTMIN"] ++ (List.range 15).map (fun n => "RTMIN+" ++ toString (n + 1)) ++
    (List.range 14).map (fun n => "RTMAX-" ++ toString (14 - n)) ++ ["RTMAX"]

def tooLarge : Nat := 25

def terminate : Nat := 15

def effect (number : Nat) : SignalEffect :=
  if [0, 17, 18, 23, 28].contains number then .nothing
  else if [19, 20, 21, 22].contains number then .stops
  else .ends

def name? (number : Nat) : Option String :=
  if number = 0 then some "EXIT" else names[number - 1]?

def description (number : Nat) : String :=
  match number with
  | 1 => "Hangup"
  | 2 => "Interrupt"
  | 3 => "Quit"
  | 4 => "Illegal instruction"
  | 5 => "Trace/breakpoint trap"
  | 6 => "Aborted"
  | 7 => "Bus error"
  | 8 => "Floating point exception"
  | 9 => "Killed"
  | 10 => "User defined signal 1"
  | 11 => "Segmentation fault"
  | 12 => "User defined signal 2"
  | 13 => "Broken pipe"
  | 14 => "Alarm clock"
  | 15 => "Terminated"
  | 16 => "Stack fault"
  | 24 => "CPU time limit exceeded"
  | 25 => "File size limit exceeded"
  | 26 => "Virtual timer expired"
  | 27 => "Profiling timer expired"
  | 29 => "I/O possible"
  | 30 => "Power failure"
  | 31 => "Bad system call"
  | n => if 34 ≤ n then "Real-time signal " ++ toString (n - 34) else "Unknown signal " ++ toString n

def ofNumber? (text : List Char) : Option Nat :=
  if !text.isEmpty && text.all Char.isDigit then
    let number := Text.decimalValue text
    if number ≤ 64 then some number else none
  else none

def ofText? (text : List Char) (exits : Bool) : Option Nat :=
  match ofNumber? text with
  | some number => some number
  | none =>
    let name := String.ofList (text.map Char.toUpper)
    if exits && name = "EXIT" then some 0
    else (names.findIdx? (· == name)).map (· + 1)

end Signal

end Gesture.Shell
