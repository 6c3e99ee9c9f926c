import Gesture.Shell.Program.Nested
import Gesture.Shell.Program.Text

namespace Gesture.Shell.Program

namespace Passing

inductive TextError where
  | unmatched (quote : Char)
  deriving DecidableEq, Repr

structure Splitting where
  whole : Bool
  ending : Option Bytes

/-- The lines that were split, latest first, and the line at hand: its arguments and the word at hand,
    latest first. -/
structure Split where
  lines : List (List Bytes) := []
  arguments : List Bytes := []
  word : Option Bytes := none
  quote : Option Char := none
  escaped : Bool := false
  between : Bool := true
  stopped : Bool := false

namespace Split

def isEnd (way : Splitting) (word : Bytes) : Bool :=
  match way.ending with
  | some e => !e.isEmpty && e == word
  | none => false

def endWord (way : Splitting) (s : Split) : Split :=
  match s.word with
  | none => s
  | some letters =>
    let word := letters.reverse
    if isEnd way word then { s with word := none, between := true, stopped := true }
    else { s with arguments := word :: s.arguments, word := none, between := true }

def endLine (way : Splitting) (s : Split) : Split :=
  let s := s.endWord way
  if s.arguments.isEmpty then s
  else { s with lines := s.arguments.reverse :: s.lines, arguments := [] }

def add (s : Split) (c : Char) : Split :=
  { s with word := some (c :: s.word.getD []), escaped := false, between := false }

def take (way : Splitting) (s : Split) (c : Char) : Except (TextError × Split) Split :=
  if s.stopped then .ok s
  else if s.escaped then .ok (s.add c)
  else
    match s.quote with
    | some q =>
      if c == '\n' then .error (.unmatched q, s)
      else if c == q then .ok { s with quote := none }
      else .ok (s.add c)
    | none =>
      let isBlank := c == ' ' || c == '\t'
      if s.between && (isBlank || Number.isBlank c) then .ok s
      else if c == '\n' then .ok (s.endLine way)
      else if isBlank && !way.whole then .ok (s.endWord way)
      else
        let started := { s with word := some (s.word.getD []), between := false }
        if c == '\\' then .ok { started with escaped := true }
        else if c == '\'' || c == '"' then .ok { started with quote := some c }
        else .ok (started.add c)

end Split

def split (way : Splitting) (text : Bytes) : List (List Bytes) × Option TextError :=
  match text.foldlM (Split.take way) {} with
  | .error (e, s) => ((s.arguments.reverse :: s.lines).reverse.filter (!·.isEmpty), some e)
  | .ok s =>
    match s.quote with
    | some q => ((s.arguments.reverse :: s.lines).reverse.filter (!·.isEmpty), some (.unmatched q))
    | none => ((s.endLine way).lines.reverse, none)

/-- The parts of a text between occurrences of a character; an empty one at the end does not
    count. -/
def parts (c : Char) (text : Bytes) : List Bytes :=
  let all := text.splitOn c
  if all.getLast? == some [] then all.dropLast else all

def delimiter? (text : Bytes) : Option Char :=
  match text with
  | [c] => some c
  | ['\\', 'n'] => some '\n'
  | ['\\', 't'] => some '\t'
  | ['\\', 'r'] => some '\r'
  | ['\\', 'a'] => some '\x07'
  | ['\\', 'b'] => some '\x08'
  | ['\\', 'f'] => some '\x0c'
  | ['\\', 'v'] => some '\x0b'
  | ['\\', '\\'] => some '\\'
  | '\\' :: 'x' :: digits =>
    match hexEscape digits.length digits with
    | some (c, []) => some c
    | _ => none
  | '\\' :: digits =>
    if !digits.isEmpty && digits.all fun c => (Format.octalValue? c).isSome then
      some (Format.octal digits.length 0 digits).1
    else none
  | _ => none

inductive Grouping where
  | full
  | replacing (mark : Bytes)
  | lines (count : Nat)
  | arguments (count : Nat)
  deriving DecidableEq, Repr

/-- The grouping that options ask for. They exclude each other, and the last one counts, except that
    single arguments go together with a mark. -/
def groupingOf (o : Options) : Grouping :=
  o.letters.foldl
    (fun g (letter, value) =>
      match letter with
      | 'I' => .replacing value
      | 'i' => .replacing (if value.isEmpty then ['{', '}'] else value)
      | 'L' => .lines (Text.decimalValue value)
      | 'l' => .lines (if value.isEmpty then 1 else Text.decimalValue value)
      | 'n' =>
        match g with
        | .replacing mark =>
          if Text.decimalValue value = 1 then .replacing mark
          else .arguments (Text.decimalValue value)
        | _ => .arguments (Text.decimalValue value)
      | _ => g)
    .full

def replaceAll (old new : Bytes) : Nat → Bytes → Bytes
  | 0, text => text
  | _ + 1, [] => []
  | limit + 1, c :: rest =>
    if !old.isEmpty && old.isPrefixOf (c :: rest) then
      new ++ replaceAll old new limit ((c :: rest).drop old.length)
    else c :: replaceAll old new limit rest

def room (words : List Bytes) : Nat :=
  total (words.map (·.length + 1))

structure Calls where
  done : List (List Bytes) := []
  current : List Bytes := []
  size : Nat := 0

def Calls.finish (c : Calls) : Calls :=
  if c.current.isEmpty then c else { done := c.current.reverse :: c.done }

def Calls.add (count : Option Nat) (room : Nat) (c : Calls) (argument : Bytes) : Calls :=
  let isFull := (count.map fun n => decide (n ≤ c.current.length)).getD false
  let c := if isFull || room < c.size + argument.length + 1 then c.finish else c
  { c with current := argument :: c.current, size := c.size + argument.length + 1 }

def chunks {α : Type} (count : Nat) : Nat → List α → List (List α)
  | 0, _ => []
  | _ + 1, [] => []
  | limit + 1, items => items.take count :: chunks count limit (items.drop count)

/-- The arguments of each call, for lines of arguments. Whether all of them could be placed is said as
    well. -/
def callsOf (g : Grouping) (command : List Bytes) (limit : Nat) (lines : List (List Bytes)) :
    List (List Bytes) × Bool :=
  let space := limit - room command
  let items := lines.flatten
  let placed := items.takeWhile fun a => decide (a.length + 1 ≤ space)
  let grouped (count : Option Nat) (items : List Bytes) : List (List Bytes) :=
    (items.foldl (Calls.add count space) {}).finish.done.reverse
  match g with
  | .replacing mark =>
    (items.map fun item =>
      command.take 1 ++ (command.drop 1).map fun w => replaceAll mark item w.length w, true)
  | .arguments count =>
    ((grouped (some count) placed).map (command ++ ·), placed.length == items.length)
  | .full => ((grouped none placed).map (command ++ ·), placed.length == items.length)
  | .lines count =>
    (((chunks count lines.length lines).flatMap fun some' => grouped none some'.flatten).map
      (command ++ ·), true)

inductive Outcome where
  | fine
  | failed
  | ends (status : Nat)
  deriving DecidableEq, Repr

variable (e : Engine)

def runCall (o : Options) (null : Nat) (call : List Bytes) : Run Outcome := do
  if o.has 't' then Run.say 2 ([' '].intercalate call ++ ['\n'])
  let m ← get
  let found := do
    let path ← Lookup.pathOf m (call.headD [])
    Lookup.resolve m 6 path call
  let child ← Engine.inProcess
    (fun p => if o.has 'a' then p else { p with descriptors := Run.bound 0 null p.descriptors })
    (Lookup.fateOf (become e "" shown call))
  let status ← Engine.await child
  let name := shown (call.headD [])
  match found, child.fate with
  | .error _, _ => return .ends status
  | _, .killed signal =>
    complain (name ++ ": terminated by signal " ++ toString signal)
    return .ends 125
  | _, _ =>
    if status = 255 then
      complain (name ++ ": exited with status 255; aborting")
      return .ends 124
    else return if status = 0 then .fine else .failed

def runCalls (o : Options) (null : Nat) (calls : List (List Bytes)) : Run (Nat × Bool) :=
  iterate .stalled
    (fun (calls, status) => do
      match calls with
      | [] => return .inr (status, false)
      | call :: rest =>
        match ← runCall e o null call with
        | .fine => return .inl (rest, status)
        | .failed => return .inl (rest, 123)
        | .ends status => return .inr (status, true))
    (calls.length + 1) (calls, 0)

def numberError? (o : Options) : Option String :=
  o.letters.findSome? fun (letter, value) =>
    let name := letter.toString
    let least : Nat := if letter == 'P' then 0 else 1
    if "nLPs".toList.contains letter || (letter == 'l' && !value.isEmpty) then
      match Number.ofText? false value with
      | none => some ("invalid number \"" ++ shown value ++ "\" for -" ++ name ++ " option")
      | some n =>
        if n < (least : Int) then
          some ("value " ++ toString n ++ " for -" ++ name ++ " option should be >= " ++
            toString least)
        else none
    else none

end Passing

open Passing in
def passArguments (e : Engine) (arguments : List Bytes) : Run Nat :=
  let long := [("null", '0'), ("arg-file", 'a'), ("delimiter", 'd'), ("eof", 'e'), ("replace", 'i'),
    ("max-lines", 'l'), ("max-args", 'n'), ("open-tty", 'o'), ("max-procs", 'P'),
    ("interactive", 'p'), ("no-run-if-empty", 'r'), ("max-chars", 's'), ("verbose", 't'),
    ("exit", 'x'), ("show-limits", 'S'), ("process-slot-var", 'V')]
  withOptions "0a:d:E:e::I:i::L:l::n:oP:prs:txV:" long true 1 arguments fun o => do
    match numberError? o, (o.last? 'd').map delimiter? with
    | some message, _ => misuse 1 message
    | _, some none =>
      refuse 1 ("Invalid input delimiter specification " ++ shown ((o.last? 'd').getD []) ++
        ": the delimiter must be either a single character or an escape sequence starting with \\.")
    | none, delimiter =>
      let delimiter : Option Char := delimiter.bind id
      match ← knownOf ((o.last? 'a').getD ['-']) with
      | .error error =>
        if o.has 'a' then
          refuse 1 ("Cannot open input file " ++ inRoundQuotes ((o.last? 'a').getD []) ++ ": " ++
            error.reason)
        else return 0
      | .ok text =>
        let grouping := groupingOf o
        let isReplacing := match grouping with
          | .replacing _ => true
          | _ => false
        let ending := (o.last? 'E').or ((o.last? 'e').filter (!·.isEmpty))
        let (lines, problem) : List (List Bytes) × Option TextError :=
          match o.has '0', delimiter with
          | true, _ => ((parts '\x00' text).map ([·]), none)
          | false, some c => ((parts c text).map ([·]), none)
          | false, none => split { whole := isReplacing, ending } text
        let command := if o.rest.isEmpty then ["echo".toList] else o.rest
        let limit := (((o.last? 's').map Text.decimalValue).getD 131072)
        if limit < room command then
          refuse 1 "cannot fit single argument within argument list size limit"
        else
          let (calls, all) := callsOf grouping command limit lines
          let idle := calls.isEmpty && problem.isNone && all && !o.has 'r' && !isReplacing
          let null ← Run.addHandle { target := .device .null, writable := false }
          let (status, ended) ← runCalls e o null (if idle then [command] else calls)
          if ended then return status
          match problem with
          | some (.unmatched q) =>
            refuse 1 ("unmatched " ++ (if q == '"' then "double" else "single") ++
              " quote; by default quotes are special to xargs unless you use the -0 option")
          | none => if all then return status else refuse 1 "argument line too long"

end Gesture.Shell.Program
