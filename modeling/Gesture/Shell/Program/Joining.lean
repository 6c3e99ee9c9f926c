import Gesture.Shell.Program.Pairing

namespace Gesture.Shell.Program

namespace Join

structure Row where
  text : Bytes
  fields : Array Bytes
  deriving DecidableEq, Repr

inductive Choice where
  | common
  | first (field : Nat)
  | second (field : Nat)
  deriving DecidableEq, Repr

structure Style where
  delimiter : Option Char := none
  field : Nat × Nat := (0, 0)
  ignoresCase : Bool := false
  filler : Bytes := []
  choices : Option (List Choice) := none
  counts : Option (Nat × Nat) := none
  ending : Char := '\n'
  check : Comm.Check := .usual
  pairs : Bool := true
  alone : Bool × Bool := (false, false)

/-- The fields of a line that blanks divide. Blanks at its end have an empty field after them. -/
def blankFields (line : Bytes) : List Bytes :=
  let isBlank (c : Char) : Bool := c == ' ' || c == '\t' || c == '\n'
  let fields := (line.splitOnP isBlank).filter fun f => !f.isEmpty
  if !fields.isEmpty && (line.getLast?.map isBlank).getD false then fields ++ [[]] else fields

def Style.row (s : Style) (line : Bytes) : Row :=
  let fields := match s.delimiter with
    | none => blankFields line
    | some '\n' => [line]
    | some d => if line.isEmpty then [] else line.splitOn d
  ⟨line, fields.toArray⟩

def Row.field (r : Row) (n : Nat) : Bytes :=
  (r.fields[n]?).getD []

def Style.compare (s : Style) (a b : Bytes) : Ordering :=
  let view (t : Bytes) : Bytes := if s.ignoresCase then t.map Char.toUpper else t
  if view a == view b then .eq else if Bytes.isSorted (view a) (view b) then .lt else .gt

def Style.fieldText (s : Style) (r : Option Row) (n : Nat) : Bytes :=
  let text := (r.map (·.field n)).getD []
  if text.isEmpty then s.filler else text

def Style.written (s : Style) (a b : Option Row) : Bytes :=
  let separator := match s.delimiter with
    | some d => d
    | none => ' '
  let common := match a with
    | some _ => s.fieldText a s.field.1
    | none => s.fieldText b s.field.2
  let others (r : Option Row) (field count : Nat) : List Bytes :=
    ((List.range count).filter (· != field)).map fun n => s.fieldText r n
  let count (r : Option Row) : Nat := (r.map (·.fields.size)).getD 0
  let parts := match s.choices with
    | some choices => choices.map fun c => match c with
      | .common => common
      | .first n => s.fieldText a n
      | .second n => s.fieldText b n
    | none =>
      let (m, n) := s.counts.getD (count a, count b)
      common :: others a s.field.1 m ++ others b s.field.2 n
  [separator].intercalate parts ++ [s.ending]

/-- One of the two files: the line at hand, those that come, and the number of the line at hand. -/
structure Side where
  current : Option Row
  rest : List Row
  number : Nat := 1
  warned : Bool := false

def Side.ofLines (s : Style) (lines : List Bytes) : Side :=
  let rows := lines.map s.row
  { current := rows.head?, rest := rows.tail }

inductive Event where
  | pair (first second : Option Row)
  | disorder (file number : Nat) (line : Bytes)

def Style.advance (s : Style) (file : Nat) (unpaired : Bool) (side : Side) : Side × List Event :=
  let field := if file = 1 then s.field.1 else s.field.2
  let checks := s.check == .always || (s.check == .usual && unpaired)
  let wrong := match side.current, side.rest.head? with
    | some a, some b =>
      checks && !side.warned && (s.compare (a.field field) (b.field field)).isGT
    | _, _ => false
  let next : Side :=
    { current := side.rest.head?
      rest := side.rest.tail
      number := side.number + 1
      warned := side.warned || wrong }
  (next, bif wrong then [.disorder file next.number ((next.current.map (·.text)).getD [])] else [])

def Style.takeEqual (s : Style) (file : Nat) (unpaired : Bool) (key : Bytes) :
    Nat → Side → List Row × Side × List Event
  | 0, side => ([], side, [])
  | limit + 1, side =>
    match side.current with
    | none => ([], side, [])
    | some row =>
      let field := if file = 1 then s.field.1 else s.field.2
      if s.compare (row.field field) key != .eq then ([], side, [])
      else
        let (side, events) := s.advance file unpaired side
        let (rows, side, later) := s.takeEqual file unpaired key limit side
        (row :: rows, side, events ++ later)

def Style.finish (s : Style) (file : Nat) (alone unpaired : Bool) : Nat → Side → List Event
  | 0, _ => []
  | limit + 1, side =>
    match side.current with
    | none => []
    | some row =>
      let own : List Event :=
        if !alone then [] else if file = 1 then [.pair (some row) none] else [.pair none (some row)]
      let (side, events) := s.advance file unpaired side
      own ++ events ++ s.finish file alone unpaired limit side

def Style.events (s : Style) : Nat → Bool → Side → Side → List Event
  | 0, _, _, _ => []
  | limit + 1, unpaired, left, right =>
    match left.current, right.current with
    | none, none => []
    | some _, none => s.finish 1 s.alone.1 unpaired limit left
    | none, some _ => s.finish 2 s.alone.2 unpaired limit right
    | some a, some b =>
      match s.compare (a.field s.field.1) (b.field s.field.2) with
      | .lt =>
        let (left, events) := s.advance 1 unpaired left
        (if s.alone.1 then [.pair (some a) none] else []) ++ events ++
          s.events limit true left right
      | .gt =>
        let (right, events) := s.advance 2 unpaired right
        (if s.alone.2 then [.pair none (some b)] else []) ++ events ++
          s.events limit true left right
      | .eq =>
        let key := a.field s.field.1
        let (rows, left, events) := s.takeEqual 1 unpaired key (left.rest.length + 1) left
        let (rows', right, events') := s.takeEqual 2 unpaired key (right.rest.length + 1) right
        let pairs := if s.pairs then
            rows.flatMap fun r => rows'.map fun r' => Event.pair (some r) (some r')
          else []
        events ++ events' ++ pairs ++ s.events limit unpaired left right

def fieldNumber (text : Bytes) : Except String Nat :=
  match Size.ofText "" text with
  | .ok (n + 1) => .ok n
  | .error .tooLarge => .ok Size.greatest
  | _ => .error ("invalid field number: " ++ inRoundQuotes text)

def choiceOf (text : Bytes) : Except String Choice := do
  match text with
  | ['0'] => return .common
  | '0' :: _ => throw ("invalid field specifier: " ++ inRoundQuotes text)
  | '1' :: '.' :: n => return .first (← fieldNumber n)
  | '2' :: '.' :: n => return .second (← fieldNumber n)
  | '1' :: _ | '2' :: _ => throw ("invalid field specifier: " ++ inRoundQuotes text)
  | _ => throw ("invalid file number in field spec: " ++ inRoundQuotes text)

def fileNumber (text : Bytes) : Except String Nat :=
  match Size.ofText "" text with
  | .ok 1 => .ok 1
  | .ok 2 => .ok 2
  | _ => .error ("invalid field number: " ++ inRoundQuotes text)

def Style.withAlone (s : Style) (text : Bytes) : Except String Style := do
  if (← fileNumber text) = 1 then return { s with alone := (true, s.alone.2) }
  else return { s with alone := (s.alone.1, true) }

def Style.with (s : Style) (letter : Char) (value : Bytes) : Except String Style := do
  match letter with
  | 'a' => s.withAlone value
  | 'v' => return { ← s.withAlone value with pairs := false }
  | 'e' =>
    if !s.filler.isEmpty && s.filler != value then throw "conflicting empty-field replacement strings"
    return { s with filler := value }
  | 'i' => return { s with ignoresCase := true }
  | 'j' => do
    let n ← fieldNumber value
    return { s with field := (n, n) }
  | '1' => return { s with field := (← fieldNumber value, s.field.2) }
  | '2' => return { s with field := (s.field.1, ← fieldNumber value) }
  | 'o' =>
    if value == "auto".toList then return { s with counts := some (0, 0) }
    let more ← (value.splitOnP fun c => c == ',' || c == ' ' || c == '\t').mapM choiceOf
    return { s with choices := some (s.choices.getD [] ++ more) }
  | 't' =>
    match value with
    | [] => return { s with delimiter := some '\n' }
    | [c] => return { s with delimiter := some c }
    | ['\\', '0'] => return { s with delimiter := some '\x00' }
    | _ => throw ("multi-character tab " ++ inRoundQuotes value)
  | 'z' => return { s with ending := '\x00' }
  | 'n' => return { s with check := .never }
  | 'c' => return { s with check := .always }
  | _ => return s

def run (s : Style) (header : Bool) (names : Bytes × Bytes) (first second : Bytes) : Run Nat := do
  let lines := linesBy s.ending first
  let lines' := linesBy s.ending second
  let rows := lines.map s.row
  let rows' := lines'.map s.row
  let size (rows : List Row) : Nat := (rows.head?.map (·.fields.size)).getD 0
  let s := if s.counts.isSome then { s with counts := some (size rows, size rows') } else s
  let titles := header && !(lines.isEmpty && lines'.isEmpty)
  if titles then emit (s.written rows.head? rows'.head?)
  let skipped := if titles then 1 else 0
  let found := s.events (lines.length + lines'.length + 1) false
    { Side.ofLines s (lines.drop skipped) with number := 1 + skipped }
    { Side.ofLines s (lines'.drop skipped) with number := 1 + skipped }
  let write (event : Event) (go : Run Nat) : Run Nat := do
    match event with
    | .pair a b =>
      emit (s.written a b)
      go
    | .disorder file number line =>
      let name := if file = 1 then names.1 else names.2
      complain (shown name ++ ":" ++ toString number ++ ": is not sorted: " ++ shown line)
      if s.check == .always then return 1 else go
  let disordered := found.any fun e => match e with
    | .disorder .. => true
    | .pair .. => false
  found.foldr write (if disordered then refuse 1 "input is not in sorted order" else return 0)

end Join

open Join in
def join (arguments : List Bytes) : Run Nat :=
  let long := [("ignore-case", 'i'), ("check-order", 'c'), ("nocheck-order", 'n'), ("header", 'h'),
    ("zero-terminated", 'z')]
  withOptions "a:e:i1:2:j:o:t:v:zcnh" long false 1 arguments fun o => do
    match o.letters.foldlM (fun (s : Style) l => s.with l.1 l.2) {}, o.rest with
    | .error message, _ => refuse 1 message
    | .ok _, [] => misuse 1 "missing operand"
    | .ok _, [a] => misuse 1 ("missing operand after " ++ inRoundQuotes a)
    | .ok _, _ :: _ :: extra :: _ => misuse 1 ("extra operand " ++ inRoundQuotes extra)
    | .ok s, [a, b] =>
      if a == ['-'] && b == ['-'] then refuse 1 "both files cannot be standard input"
      else
        match ← contentsOf a with
        | .error e => refuse 1 (named a ++ ": " ++ e.reason)
        | .ok first =>
          match ← contentsOf b with
          | .error e => refuse 1 (named b ++ ": " ++ e.reason)
          | .ok second => run s (o.has 'h') (a, b) first second

end Gesture.Shell.Program
