import Gesture.Command
import Gesture.Shell.Evaluation
import Gesture.Shell.Program

namespace Gesture.Shell

def engine : Nat → Engine
  | 0 =>
    { command := fun _ _ => throw .tooDeep
      expand := fun _ _ => throw .tooDeep
      program? := fun _ => none }
  | depth + 1 =>
    let inner := engine depth
    { command := Evaluation.command inner
      expand := Expansion.expand inner
      program? := Program.ofName? inner }

def levelLimit : Nat := 6000

def wholeEngine : Engine := engine levelLimit

def firstProcess : Nat := 4242

def initialVariables : List (Bytes × Variable) :=
  let exported := [("PATH", "/usr/local/bin:/usr/local/sbin:/usr/bin:/usr/sbin:/bin:/sbin"),
    ("HOME", "/root"), ("PWD", "/tmp")]
  let plain := [("IFS", " \t\n"), ("OPTIND", "1"), ("PS1", "# "), ("PS2", "> "), ("PS4", "+ "),
    ("PPID", "4241")]
  let entry (isExported : Bool) (binding : String × String) : Bytes × Variable :=
    (binding.1.toList, { value := some binding.2.toList, exported := isExported })
  exported.map (entry true) ++ plain.map (entry false)

def initialMachine : Machine :=
  { tree := Tree.usual Program.names
    handles := #[{ target := .device .null, writable := false },
      { target := .writeEnd 0, readable := false },
      { target := .device .null, readable := false }]
    channels := #[{ room := 2000000 }]
    nextId := firstProcess + 1
    process :=
      { id := firstProcess
        shellId := firstProcess
        bindings := initialVariables
        name := "/bin/sh".toList
        descriptors := [(0, 0), (1, 1), (2, 2)]
        working := placeOf "/tmp"
        workingPath := "/tmp".toList } }

def argumentLimit : Nat := 131072

def pointBytes : CodePoint → Bytes
  | .char c => (String.singleton c).toUTF8.toList.map fun b => Char.ofNat b.toNat
  | .half offset => [Char.ofNat (offset.val - 0x400)]

def conclusion (command : CodeText) : Run (Fate × Option Nat) := do
  let fate ← wholeEngine.conclude do
    let _ ← wholeEngine.source (command.flatMap pointBytes) {}
  let p ← Run.process
  let ending ← Engine.endingOf fate
  Run.release p.lineage p.descriptors ending
  return (fate, ending)

def later (a b : Option Nat) : Option Nat := do
  return max (← a) (← b)

/-- Runs a command to its end. The end has come when nothing can write to its output any more. -/
def run (command : CodeText) : Command.Result :=
  match conclusion command initialMachine with
  | .error _ _ => ⟨0, [], none⟩
  | .ok (fate, ending) m =>
    let output := (m.channels[0]?.map (·.contents)).getD []
    let closing := (m.channels[0]?.map (·.closing)).getD ending
    let status : Int := match fate with
      | .exited status => (status % 256 : Nat)
      | .killed signal => -(signal : Int)
      | .stalled | .full => 0
    ⟨status, output.map fun c => UInt8.ofNat c.toNat, later ending closing⟩

/-- One of the shells that the program may be given. -/
def start : Shell := fun command =>
  match command.stray? with
  | some s => .error (.stray s)
  | none =>
    if .char '\x00' ∈ command then .error .nullCharacter
    else if argumentLimit ≤ command.size then .error .tooLong
    else .ok (run command)

end Gesture.Shell
