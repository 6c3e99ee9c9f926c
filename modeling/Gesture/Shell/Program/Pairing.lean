import Gesture.Shell.Program.Size

namespace Gesture.Shell.Program

namespace Paste

/-- The delimiters that a list tells; nothing stands for an empty one, and the whole is nothing if
    the list ends in the middle of an escape. -/
def delimiters? : Bytes → Option (List (Option Char))
  | ['\\'] => none
  | '\\' :: c :: rest => do
    let d := match c with
      | '0' => none
      | 'b' => some '\x08'
      | 'f' => some '\x0c'
      | 'n' => some '\n'
      | 'r' => some '\r'
      | 't' => some '\t'
      | 'v' => some '\x0b'
      | c => some c
    return d :: (← delimiters? rest)
  | c :: rest => do return some c :: (← delimiters? rest)
  | [] => some []

def joined (delimiters : List (Option Char)) (cells : List Bytes) : Bytes :=
  (cells.zipIdx.map fun (cell, i) =>
    if i = 0 then cell
    else
      match delimiters[(i - 1) % max delimiters.length 1]? with
      | some (some d) => d :: cell
      | _ => cell).flatten

/-- One row: the next line of each column, whose sources are told by numbers, and what is left of the
    sources. -/
def row (columns : List Nat) (sources : Array (List Bytes)) :
    List (Option Bytes) × Array (List Bytes) :=
  columns.foldl
    (fun (cells, sources) column =>
      match sources[column]? with
      | some (line :: rest) => (cells ++ [some line], sources.setIfInBounds column rest)
      | _ => (cells ++ [none], sources))
    ([], sources)

def rows (columns : List Nat) : Nat → Array (List Bytes) → List (List Bytes)
  | 0, _ => []
  | limit + 1, sources =>
    let (cells, sources) := row columns sources
    if cells.all (·.isNone) then [] else cells.map (·.getD []) :: rows columns limit sources

def linesFrom (ending : Char) (path : Bytes) (descriptor : Nat) : Run (List Bytes × Bool) := do
  match ← Run.receiveKnown descriptor with
  | .ok (text, endless) =>
    if endless then Run.update fun p => { p with unfinished := true }
    return (linesBy ending text, true)
  | .error e =>
    complain (named path ++ ": " ++ e.reason)
    return ([], false)

def serial (ending : Char) (delimiters : List (Option Char)) (paths : List Bytes) : Run Nat := do
  let good ← paths.mapM fun path => do
    match ← openInput path with
    | .error e =>
      complain (named path ++ ": " ++ e.reason)
      return false
    | .ok d =>
      let (lines, good) ← linesFrom ending path d
      emit (joined delimiters lines ++ [ending])
      return good
  return if good.all id then 0 else 1

/-- The lines of all files next to each other. What is read through one descriptor is one source. -/
def parallel (ending : Char) (delimiters : List (Option Char)) (paths : List Bytes) : Run Nat := do
  let opened ← paths.mapM fun path => do return (path, ← openInput path)
  let failed := opened.findSome? fun (path, result) => match result with
    | .error e => some (named path ++ ": " ++ e.reason)
    | .ok _ => none
  match failed with
  | some message => refuse 1 message
  | none =>
    let descriptors := opened.filterMap fun (path, result) => match result with
      | .ok d => some (path, d)
      | .error _ => none
    let different := descriptors.foldl
      (fun found d => if found.any fun f => f.2 == d.2 then found else found ++ [d])
      ([] : List (Bytes × Nat))
    let sources ← different.mapM fun (path, d) => linesFrom ending path d
    let columns := descriptors.map fun (_, d) => (different.findIdx? (·.2 == d)).getD 0
    let limit := total (sources.map (·.1.length))
    let found := rows columns (limit + 1) (sources.map (·.1)).toArray
    emit (found.flatMap fun cells => joined delimiters cells ++ [ending])
    return if sources.all (·.2) then 0 else 1

end Paste

def paste (arguments : List Bytes) : Run Nat :=
  let long := [("delimiters", 'd'), ("serial", 's'), ("zero-terminated", 'z')]
  withOptions "d:sz" long false 1 arguments fun o => do
    let told := match o.last? 'd' with
      | none => ['\t']
      | some [] => "\\0".toList
      | some list => list
    let ending := if o.has 'z' then '\x00' else '\n'
    let paths := if o.rest.isEmpty then [['-']] else o.rest
    match Paste.delimiters? told with
    | none => refuse 1 ("delimiter list ends with an unescaped backslash: " ++ shown told)
    | some delimiters =>
      if o.has 's' then Paste.serial ending delimiters paths
      else Paste.parallel ending delimiters paths

namespace Comm

inductive Check where
  | never
  | usual
  | always
  deriving DecidableEq, Repr

structure Side where
  before : Option Bytes := none
  current : Option Bytes
  rest : List Bytes
  warned : Bool := false
  deriving DecidableEq, Repr

def Side.ofLines (lines : List Bytes) : Side :=
  { current := lines.head?, rest := lines.tail }

/-- Goes on to the next line; whether two lines came in the wrong order is said as well. At the end
    the last two lines are looked at again. -/
def Side.advance (checks : Bool) (s : Side) : Side × Bool :=
  let next := s.rest.head?
  let pair := if next.isSome then (s.current, next) else (s.before, s.current)
  let wrong := match pair with
    | (some a, some b) => checks && !s.warned && !Bytes.isSorted a b
    | _ => false
  (⟨s.current, next, s.rest.tail, s.warned || wrong⟩, wrong)

inductive Event where
  | line (column : Nat) (text : Bytes)
  | disorder (file : Nat)

def stepLeft (check : Check) (unpaired : Bool) (left : Side) : Side × List Event :=
  let (left, wrong) := left.advance (check == .always || (check == .usual && unpaired))
  (left, if wrong then [.disorder 1] else [])

def stepRight (check : Check) (unpaired : Bool) (right : Side) : Side × List Event :=
  let (right, wrong) := right.advance (check == .always || (check == .usual && unpaired))
  (right, if wrong then [.disorder 2] else [])

/-- What is found in two files, with the lines of each in a column, and those in both in a third. -/
def events (check : Check) : Nat → Bool → Side → Side → List Event
  | 0, _, _, _ => []
  | limit + 1, unpaired, left, right =>
    let onLeft (a : Bytes) : List Event :=
      let (left, disorder) := stepLeft check true left
      .line 1 a :: disorder ++ events check limit true left right
    let onRight (b : Bytes) : List Event :=
      let (right, disorder) := stepRight check true right
      .line 2 b :: disorder ++ events check limit true left right
    match left.current, right.current with
    | none, none => []
    | some a, none => onLeft a
    | none, some b => onRight b
    | some a, some b =>
      if a == b then
        let (left, disorder) := stepLeft check unpaired left
        let (right, disorder') := stepRight check unpaired right
        .line 3 b :: disorder ++ disorder' ++ events check limit unpaired left right
      else if Bytes.isSorted a b then onLeft a
      else onRight b

end Comm

open Comm in
def comm (arguments : List Bytes) : Run Nat :=
  let long := [("check-order", 'c'), ("nocheck-order", 'n'), ("output-delimiter", 'd'),
    ("total", 't'), ("zero-terminated", 'z')]
  withOptions "123zcnd:t" long false 1 arguments fun o => do
    let delimiters := (o.letters.filter (·.1 == 'd')).map (·.2)
    match o.rest with
    | [] => misuse 1 "missing operand"
    | [a] => misuse 1 ("missing operand after " ++ inRoundQuotes a)
    | _ :: _ :: extra :: _ => misuse 1 ("extra operand " ++ inRoundQuotes extra)
    | [a, b] =>
      if delimiters.any fun d => some d != delimiters.head? then
        refuse 1 "multiple output delimiters specified"
      else
        let delimiter := match delimiters with
          | [] => ['\t']
          | [] :: _ => ['\x00']
          | d :: _ => d
        let ending := if o.has 'z' then '\x00' else '\n'
        let check := match o.letters.reverse.find? fun l => l.1 == 'c' || l.1 == 'n' with
          | some ('c', _) => Check.always
          | some _ => .never
          | none => .usual
        match ← contentsOf a with
        | .error e => refuse 1 (named a ++ ": " ++ e.reason)
        | .ok first =>
          match ← contentsOf b with
          | .error e => refuse 1 (named b ++ ": " ++ e.reason)
          | .ok second =>
            let left := linesBy ending first
            let right := linesBy ending second
            let found := events check (left.length + right.length + 1) false
              (Side.ofLines left) (Side.ofLines right)
            let hides (column : Nat) : Bool := o.has (Nat.digitChar column)
            let shift (column : Nat) : Bytes :=
              ((List.range (column - 1)).filter fun c => !hides (c + 1)).flatMap fun _ => delimiter
            let counts : List Nat := [1, 2, 3].map fun column => found.countP fun e => match e with
              | .line c _ => c == column
              | .disorder _ => false
            let write (event : Event) (go : Run Nat) : Run Nat := do
              match event with
              | .line column text =>
                if !hides column then emit (shift column ++ text ++ [ending])
                go
              | .disorder file =>
                complain ("file " ++ toString file ++ " is not in sorted order")
                if check == .always then return 1 else go
            let disordered := found.any fun e => match e with
              | .disorder _ => true
              | .line _ _ => false
            found.foldr write do
              if o.has 't' then
                emit ((counts.flatMap fun n => Run.number n ++ delimiter) ++ "total".toList ++
                  [ending])
              if disordered then refuse 1 "input is not in sorted order" else return 0

end Gesture.Shell.Program
