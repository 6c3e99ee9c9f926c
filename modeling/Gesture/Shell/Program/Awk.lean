import Gesture.Shell.Program.Awk.Evaluation
import Gesture.Shell.Program.Awk.Parser
import Gesture.Shell.Program.Entry

namespace Gesture.Shell.Program

namespace Awk

structure Invocation where
  separator : Option Bytes := none
  assignments : List Bytes := []
  files : List Bytes := []
  rest : List Bytes

def invocationOf : Nat → Invocation → Except String Invocation
  | 0, s => .ok s
  | limit + 1, s =>
    let withValue (value : Bytes) (rest : List Bytes)
        (use : Bytes → List Bytes → Invocation) : Except String Invocation :=
      match value, rest with
      | [], [] => .error "missing argument"
      | [], value :: rest => invocationOf limit (use value rest)
      | value, rest => invocationOf limit (use value rest)
    match s.rest with
    | ['-', '-'] :: rest => .ok { s with rest }
    | ('-' :: 'F' :: value) :: rest =>
      withValue value rest fun value rest => { s with separator := some value, rest }
    | ('-' :: 'v' :: value) :: rest =>
      withValue value rest fun value rest =>
        { s with assignments := s.assignments ++ [value], rest }
    | ('-' :: 'f' :: value) :: rest =>
      withValue value rest fun value rest => { s with files := s.files ++ [value], rest }
    | ('-' :: 'W' :: value) :: rest => withValue value rest fun _ rest => { s with rest }
    | ('-' :: c :: more) :: _ => .error ("not an option: " ++ String.ofList ('-' :: c :: more))
    | _ => .ok s

def initialState (p : Process) (name : Bytes) (s : Invocation) (rest : List Bytes) : State :=
  let words := name :: rest
  let argv : Table := words.zipIdx.foldl (fun t (w, i) => t.put (.number i) (.input w)) {}
  let environ : Table := (p.bindings.filter (·.2.exported)).foldl
    (fun t (n, v) => t.put (.text n) (.input (v.value.getD []))) {}
  let text (t : String) : Slot := .scalar (.text t.toList)
  let number (n : Int) : Slot := .scalar (.number (Binary64.ofInt n))
  let separator := (s.separator.map fun t => unescaped t.length t).getD [' ']
  { tables := #[argv, environ]
    globals := [("NR".toList, number 0), ("FNR".toList, number 0), ("FS".toList, .scalar (.text separator)),
      ("OFS".toList, text " "), ("ORS".toList, text "\n"), ("RS".toList, text "\n"),
      ("FILENAME".toList, text ""), ("SUBSEP".toList, text "\x1c"), ("RSTART".toList, number 0),
      ("RLENGTH".toList, number (-1)), ("CONVFMT".toList, text "%.6g"), ("OFMT".toList, text "%.6g"),
      ("ARGC".toList, number words.length), ("ARGV".toList, .array 0), ("ENVIRON".toList, .array 1)] }

end Awk

open Awk in
def awk (e : Engine) (arguments : List Bytes) : Run Nat := do
  let p ← Run.process
  let own := lastPart p.name
  let complainOf (message : String) : Run Nat := do
    Run.say 2 (own ++ ": ".toList ++ message.toList ++ ['\n'])
    return 2
  match invocationOf (arguments.length + 1) { rest := arguments } with
  | .error message => complainOf message
  | .ok s =>
    let texts ← s.files.mapM fun path => do
      match ← contentsOf path with
      | .ok text => return Except.ok text
      | .error e => return Except.error ("cannot open \"" ++ shown path ++ "\" (" ++ e.reason ++ ")")
    match texts.mapM (fun t => t), s.files, s.rest with
    | .error message, _, _ => complainOf message
    | .ok _, [], [] =>
      Run.say 2 ("Usage: ".toList ++ own ++ " [Options] [Program] [file ...]\n".toList)
      return 2
    | .ok texts, files, words =>
      let (source, rest) := if files.isEmpty then (words.headD [], words.drop 1)
        else (['\n'].intercalate texts, words)
      match Parser.scriptOf source with
      | .error (line, message) => complainOf ("line " ++ toString line ++ ": " ++ message)
      | .ok script =>
        let inner := level e script.functions 2000
        let go : Course Unit := do
          s.assignments.forM assignText
          perform inner script
        let (result, state) ← go.run.run (initialState p own s rest)
        let failed ← match result with
          | .error (.failed message) => do
            let _ ← complainOf message
            pure true
          | _ => pure false
        let (_, state) ← (finish inner).run.run state
        return if failed then 2 else state.status

end Gesture.Shell.Program
