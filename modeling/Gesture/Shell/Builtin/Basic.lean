import Gesture.Shell.Engine
import Gesture.Shell.Number

namespace Gesture.Shell.Builtin

structure Kind where
  special : Bool := false
  regular : Bool := false
  assigns : Bool := false

def kind? (name : Bytes) : Option Kind :=
  match String.ofList name with
  | "." | ":" | "break" | "continue" | "eval" | "exec" | "exit" | "return" | "set" | "shift"
  | "times" | "trap" | "unset" => some { special := true }
  | "export" | "readonly" | "local" => some { special := true, assigns := true }
  | "alias" => some { regular := true, assigns := true }
  | "bg" | "cd" | "chdir" | "command" | "false" | "fg" | "getopts" | "hash" | "jobs" | "kill" | "pwd"
  | "read" | "true" | "type" | "ulimit" | "umask" | "unalias" | "wait" => some { regular := true }
  | "echo" | "printf" | "test" | "[" => some {}
  | _ => none

def out (bytes : Bytes) : Run Unit := do
  if (← Run.write 1 bytes).isSome then Run.update fun p => { p with outputFailed := true }

def outLine (bytes : Bytes) : Run Unit :=
  out (bytes ++ ['\n'])

def numberOf (argument : Bytes) : Run Nat := do
  match Number.ofText? false argument with
  | some n =>
    if 0 ≤ n ∧ n ≤ 2147483647 then return n.toNat
    else Run.failWith ("Illegal number: ".toList ++ argument)
  | none => Run.failWith ("Illegal number: ".toList ++ argument)

def quoted (text : Bytes) : Bytes :=
  let pieces := text.splitOn '\''
  ['\''] ++ "'\"'\"'".toList.intercalate pieces ++ ['\'']

def optionsOf (letters : String) (arguments : List Bytes) :
    Run (List (Char × Bytes) × List Bytes) :=
  iterate .stalled
    (fun (found, arguments) => do
      match arguments with
      | ['-', '-'] :: rest => return .inr (found.reverse, rest)
      | ('-' :: c :: more) :: rest =>
        let takesArgument := (letters.toList.dropWhile (· != c))[1]? == some ':'
        if c == ':' || !letters.toList.contains c then
          Run.failWith ("Illegal option -".toList ++ [c])
        else if takesArgument then
          match more, rest with
          | [], argument :: rest => return .inl ((c, argument) :: found, rest)
          | [], [] => Run.failWith ("No arg for -".toList ++ [c] ++ " option".toList)
          | _, _ => return .inl ((c, more) :: found, rest)
        else if more.isEmpty then return .inl ((c, []) :: found, rest)
        else return .inl ((c, []) :: found, ('-' :: more) :: rest)
      | _ => return .inr (found.reverse, arguments))
    100000 (([] : List (Char × Bytes)), arguments)

end Gesture.Shell.Builtin
