import Gesture.Shell.Program.Size

namespace Gesture.Shell.Program

namespace Cut

structure Range where
  first : Nat
  last : Option Nat
  deriving DecidableEq, Repr

def Range.has (r : Range) (n : Nat) : Bool :=
  decide (r.first ≤ n) && (r.last.map (decide <| n ≤ ·)).getD true

def rangeOf (fields : Bool) (text : Bytes) : Except String Range := do
  let wrong : String :=
    if fields then "invalid field value " ++ inRoundQuotes (text.dropWhile (· == '-'))
    else "invalid byte/character position " ++ inRoundQuotes (text.dropWhile (· == '-'))
  let zero : String :=
    if fields then "fields are numbered from 1"
    else "byte/character positions are numbered from 1"
  let number (digits : Bytes) : Except String (Option Nat) := do
    if digits.isEmpty then return none
    if !digits.all Char.isDigit then throw wrong
    let n := Text.decimalValue digits
    if 18446744073709551615 ≤ n then
      throw ((if fields then "field number " else "byte/character offset ") ++
        inRoundQuotes digits ++ " is too large")
    return some n
  match text.splitOn '-' with
  | [single] =>
    match ← number single with
    | none | some 0 => throw zero
    | some n => return ⟨n, some n⟩
  | [first, last] =>
    let first ← number first
    let last ← number last
    if first == some 0 then throw zero
    if first.isNone && last.isNone then throw "invalid range with no endpoint: -"
    let start := first.getD 1
    if (last.map (decide <| · < start)).getD false then throw "invalid decreasing range"
    return ⟨start, last⟩
  | _ => throw (if fields then "invalid field range" else "invalid byte or character range")

def rangesOf (fields : Bool) (text : Bytes) : Except String (List Range) :=
  let parts := text.splitOnP fun c => c == ',' || c == ' ' || c == '\t'
  parts.mapM (rangeOf fields)

def absorb (r : Range) : List Range → List Range
  | [] => [r]
  | next :: rest =>
    match r.last with
    | none => [r]
    | some last =>
      if next.first ≤ last then
        absorb ⟨r.first, next.last.map (max last)⟩ rest
      else r :: absorb next rest

def merged (ranges : List Range) : List Range :=
  match ranges.mergeSort fun a b => decide (a.first ≤ b.first) with
  | [] => []
  | r :: rest => absorb r rest

def gaps (start : Nat) : List Range → List Range
  | [] => [⟨start, none⟩]
  | r :: rest =>
    (if start < r.first then [⟨start, some (r.first - 1)⟩] else []) ++
      match r.last with
      | none => []
      | some last => gaps (last + 1) rest

def chosen {α : Type} (ranges : List Range) (parts : List α) : List α :=
  (parts.zipIdx.filter fun p => ranges.any fun r => r.has (p.2 + 1)).map (·.1)

def bytesOf (ranges : List Range) (joint : Option Bytes) (line : Bytes) : Bytes :=
  match joint with
  | none => chosen ranges line
  | some joint =>
    let parts := ranges.map fun r =>
      let rest := line.drop (r.first - 1)
      match r.last with
      | some last => rest.take (last + 1 - r.first)
      | none => rest
    joint.intercalate (parts.filter fun part => !part.isEmpty)

def fieldsOf? (ranges : List Range) (delimiter : Char) (joint : Bytes) (onlyDelimited : Bool)
    (line : Bytes) : Option Bytes :=
  if line.contains delimiter then
    some (joint.intercalate (chosen ranges (line.splitOn delimiter)))
  else if onlyDelimited then none
  else some line

structure Plan where
  fields : Bool
  ranges : List Range
  delimiter : Char
  joint : Option Bytes
  onlyDelimited : Bool
  ending : Char

def mistake? : Bool → List (Char × Bytes) → Option String
  | _, [] => none
  | listed, (letter, value) :: rest =>
    let isList := letter == 'b' || letter == 'c' || letter == 'f'
    if isList && listed then some "only one list may be specified"
    else if letter == 'd' && 1 < value.length then some "the delimiter must be a single character"
    else mistake? (listed || isList) rest

def planOf (o : Options) : Except String Plan := do
  match mistake? false o.letters with
  | some message => throw message
  | none => pure ()
  match o.letters.find? fun l => l.1 == 'b' || l.1 == 'c' || l.1 == 'f' with
  | none => throw "you must specify a list of bytes, characters, or fields"
  | some (letter, text) =>
    let fields := letter == 'f'
    if !fields && o.has 'd' then
      throw "an input delimiter may be specified only when operating on fields"
    if !fields && o.has 's' then
      throw "suppressing non-delimited lines makes sense\n\tonly when operating on fields"
    let ranges := merged (← rangesOf fields text)
    return {
      fields
      ranges := if o.has '\x02' then gaps 1 ranges else ranges
      delimiter := match o.last? 'd' with
        | some (d :: _) => d
        | some [] => '\x00'
        | none => '\t'
      joint := (o.last? '\x01').map fun joint => if joint.isEmpty then ['\x00'] else joint
      onlyDelimited := o.has 's'
      ending := if o.has 'z' then '\x00' else '\n' }

def Plan.written (p : Plan) (text : Bytes) : Bytes :=
  let lines :=
    if p.fields && p.delimiter == p.ending && !text.isEmpty then
      [if text.getLast? == some p.ending then text.dropLast else text]
    else linesBy p.ending text
  let written := lines.filterMap fun line =>
    if p.fields then
      fieldsOf? p.ranges p.delimiter (p.joint.getD [p.delimiter]) p.onlyDelimited line
    else some (bytesOf p.ranges p.joint line)
  written.flatMap (· ++ [p.ending])

end Cut

open Cut in
def cut (arguments : List Bytes) : Run Nat :=
  let long := [("bytes", 'b'), ("characters", 'c'), ("fields", 'f'), ("delimiter", 'd'),
    ("only-delimited", 's'), ("complement", '\x02'), ("output-delimiter", '\x01'),
    ("zero-terminated", 'z')]
  withOptions "b:c:f:d:snz\x01:\x02" long false 1 arguments fun o => do
    match planOf o with
    | .error message => misuse 1 message
    | .ok plan =>
      let (inputs, good) ← streamsOf o.rest
      inputs.forM fun (_, text) => emit (plan.written text)
      return if good then 0 else 1

namespace Uniq

inductive Manner where
  | first (alone repeated : Bool)
  | repeated (marks : Char)
  | all (marks : Char)
  deriving DecidableEq, Repr

structure Style where
  skippedFields : Nat := 0
  skippedChars : Nat := 0
  width : Option Nat := none
  ignoresCase : Bool := false
  counts : Bool := false
  manner : Manner
  ending : Char
  deriving DecidableEq, Repr

def Style.key (s : Style) (line : Bytes) : Bytes :=
  let isBlank (c : Char) : Bool := c == ' ' || c == '\t' || c == '\n'
  let rest := (List.range (min s.skippedFields line.length)).foldl
    (fun text _ => (text.dropWhile isBlank).dropWhile fun c => !isBlank c) line
  let rest := rest.drop s.skippedChars
  let rest := match s.width with
    | some n => rest.take n
    | none => rest
  if s.ignoresCase then rest.map Char.toUpper else rest

def groups (keyOf : Bytes → Bytes) (lines : List Bytes) : List (List Bytes) :=
  let step (done : List (List Bytes)) (line : Bytes) : List (List Bytes) :=
    match done with
    | (a :: group) :: others =>
      if keyOf a == keyOf line then (line :: a :: group) :: others else [line] :: done
    | _ => [line] :: done
  (lines.foldl step []).reverse

def Style.line (s : Style) (count : Nat) (text : Bytes) : Bytes :=
  (if s.counts then padLeft ' ' 7 (Run.number count) ++ [' '] else []) ++ text ++ [s.ending]

/-- Groups of lines with empty lines as marks: `p` before each, `s` between them, `a` after each, and
    `b` both before and after. -/
def Style.marked (s : Style) (marks : Char) (groups : List (List Bytes)) : Bytes :=
  let texts := groups.map fun group => (group.reverse.map fun l => l ++ [s.ending]).flatten
  let mark := [s.ending]
  match marks with
  | 'p' => texts.flatMap (mark ++ ·)
  | 's' => mark.intercalate texts
  | 'a' => texts.flatMap (· ++ mark)
  | 'b' => if texts.isEmpty then [] else mark ++ texts.flatMap (· ++ mark)
  | _ => texts.flatten

def Style.written (s : Style) (lines : List Bytes) : Bytes :=
  let found := groups s.key lines
  let isRepeated (group : List Bytes) : Bool := decide (1 < group.length)
  match s.manner with
  | .repeated marks => s.marked marks (found.filter isRepeated)
  | .all marks => s.marked marks found
  | .first alone repeated =>
    (found.filter fun g => if isRepeated g then repeated else alone).flatMap fun group =>
      s.line group.length (group.getLastD [])

def method? (names : List String) (text : Bytes) : Option Char :=
  match names.filter fun n => text.isPrefixOf n.toList with
  | [n] => n.toList.head?
  | found => (found.find? fun n => n.toList == text).bind fun n => n.toList.head?

structure Wrong where
  message : String
  hints : Bool := true

def number? (o : Options) (letter : Char) (what : String) : Except Wrong (Option Nat) := do
  let numbers ← (o.letters.filter (·.1 == letter)).mapM fun (_, text) =>
    match Size.ofText "" text with
    | .ok n => .ok n
    | .error .malformed => .error ⟨shown text ++ ": " ++ what, false⟩
    | .error _ => .ok Size.greatest
  return numbers.getLast?

def methodFor (option : String) (names : List String) (usual : Char) (text : Bytes) :
    Except Wrong Char :=
  if text.isEmpty then .ok usual
  else
    match method? names text with
    | some letter => .ok letter
    | none =>
      let list := String.join (names.map fun n => "\n  - \xe2\x80\x98" ++ n ++ "\xe2\x80\x99")
      .error ⟨"invalid argument " ++ inRoundQuotes text ++ " for \xe2\x80\x98" ++ option ++
        "\xe2\x80\x99\nValid arguments are:" ++ list, true⟩

def styleOf (o : Options) : Except Wrong Style := do
  let digits := (o.letters.map (·.1)).filter Char.isDigit
  let fields ← number? o 'f' "invalid number of fields to skip"
  let chars ← number? o 's' "invalid number of bytes to skip"
  let width ← number? o 'w' "invalid number of bytes to compare"
  let repeated := o.has 'd' || o.has 'D'
  let manner ← match o.last? 'g', o.last? 'D' with
    | some text, _ =>
      let names := ["prepend", "append", "separate", "both"]
      pure (Manner.all (← methodFor "--group" names 's' text))
    | none, some text =>
      let names := ["none", "prepend", "separate"]
      pure (Manner.repeated (← methodFor "--all-repeated" names 'n' text))
    | none, none => pure (Manner.first (!repeated) (!o.has 'u'))
  if o.has 'g' && (o.has 'c' || repeated || o.has 'u') then
    throw ⟨"--group is mutually exclusive with -c/-d/-D/-u", true⟩
  if o.has 'c' && o.has 'D' then
    throw ⟨"printing all duplicated lines and repeat counts is meaningless", true⟩
  return {
    skippedFields := fields.getD (Text.decimalValue digits)
    skippedChars := chars.getD 0
    width
    ignoresCase := o.has 'i'
    counts := o.has 'c'
    manner := if o.has 'D' && o.has 'u' then .first false false else manner
    ending := if o.has 'z' then '\x00' else '\n' }

end Uniq

/-- Lets the standard output go to a file, if one is given. What is wrong with it is the result. -/
def directOutput (path : Option Bytes) : Run (Option String) := do
  match path with
  | none | some ['-'] => return none
  | some path =>
    match ← Run.openFile .overwrite path with
    | .error e => return some (named path ++ ": " ++ e.reason)
    | .ok number =>
      Run.update fun p => { p with descriptors := Run.bound 1 number p.descriptors }
      return none

open Uniq in
def uniq (arguments : List Bytes) : Run Nat :=
  let long := [("count", 'c'), ("repeated", 'd'), ("unique", 'u'), ("all-repeated", 'D'),
    ("group", 'g'), ("ignore-case", 'i'), ("skip-fields", 'f'), ("skip-chars", 's'),
    ("check-chars", 'w'), ("zero-terminated", 'z')]
  let letters := arguments.map fun a => if a == "-D".toList then "--all-repeated".toList else a
  withOptions "cduD::g::if:s:w:z0123456789" long false 1 letters fun o => do
    match styleOf o, o.rest with
    | .error w, _ => if w.hints then misuse 1 w.message else refuse 1 w.message
    | .ok _, _ :: _ :: extra :: _ => misuse 1 ("extra operand " ++ inRoundQuotes extra)
    | .ok s, rest =>
      let path := rest.headD ['-']
      match ← openInput path with
      | .error e => refuse 1 (named path ++ ": " ++ e.reason)
      | .ok d =>
        match ← directOutput rest[1]? with
        | some message => refuse 1 message
        | none =>
          match ← Run.receiveKnown d with
          | .error e => refuse 1 ("error reading " ++ inQuotes path ++ ": " ++ e.reason)
          | .ok (text, endless) =>
            if endless then Run.update fun p => { p with unfinished := true }
            emit (s.written (linesBy s.ending text))
            return 0

end Gesture.Shell.Program
