import Gesture.Shell.Program.Size

namespace Gesture.Shell.Program

namespace Tabs

structure Stops where
  places : List Nat := []
  multiples : Option Nat := none
  distance : Option Nat := none

inductive Defect where
  | notLast (sign : Char)
  | inside (sign : Char) (text : Bytes)
  | characters (text : Bytes)
  | large (digits : Bytes)
  | zero
  | descending
  | exclusive

def Defect.message : Defect → String
  | .notLast sign => "'" ++ sign.toString ++ "' specifier only allowed with the last value"
  | .inside sign text =>
    "'" ++ sign.toString ++ "' specifier not at start of number: " ++ inRoundQuotes text
  | .characters text => "tab size contains invalid character(s): " ++ inRoundQuotes text
  | .large digits => "tab stop is too large " ++ inRoundQuotes digits
  | .zero => "tab size cannot be 0"
  | .descending => "tab sizes must be ascending"
  | .exclusive => "'/' specifier is mutually exclusive with '+'"

def Stops.add (s : Stops) (sign : Option Char) (n : Nat) : Except Defect Stops :=
  match sign with
  | some '/' =>
    if (s.multiples.getD 0) ≠ 0 then .error (.notLast '/') else .ok { s with multiples := some n }
  | some _ =>
    if (s.distance.getD 0) ≠ 0 then .error (.notLast '+') else .ok { s with distance := some n }
  | none => .ok { s with places := s.places ++ [n] }

def read (s : Stops) (sign : Option Char) (digits : Bytes) : Bytes → Except Defect Stops
  | [] => if digits.isEmpty then .ok s else s.add sign (Text.decimalValue digits)
  | c :: rest =>
    if c == ',' || c == ' ' || c == '\t' then
      if digits.isEmpty then read s sign [] rest
      else do read (← s.add sign (Text.decimalValue digits)) sign [] rest
    else if c == '/' || c == '+' then
      if digits.isEmpty then read s (some c) [] rest else .error (.inside c (c :: rest))
    else if !c.isDigit then .error (.characters (c :: rest))
    else if Size.greatest < Text.decimalValue (digits ++ [c]) then
      .error (.large (digits ++ c :: rest.takeWhile Char.isDigit))
    else read s sign (digits ++ [c]) rest

def ascend : Nat → List Nat → Except Defect Unit
  | _, [] => .ok ()
  | before, n :: rest =>
    if n = 0 then .error .zero
    else if n ≤ before then .error .descending
    else ascend n rest

def Stops.settled (s : Stops) : Except Defect Stops := do
  ascend 0 s.places
  let given (n : Option Nat) : Option Nat := n.filter (· != 0)
  match s.places, given s.multiples, given s.distance with
  | _, some _, some _ => .error .exclusive
  | [], none, none => .ok ⟨[], some 8, none⟩
  | [], some n, _ | [], _, some n | [n], none, none => .ok ⟨[], some n, none⟩
  | places, multiples, distance => .ok ⟨places, multiples, distance⟩

def Stops.next? (s : Stops) (column : Nat) : Option Nat :=
  match s.places.find? fun place => decide (column < place), s.multiples, s.distance with
  | some place, _, _ => some place
  | none, some n, _ => some (column + (n - column % n))
  | none, none, some n =>
    some (column + (n - (column - s.places.getLastD 0) % n))
  | none, none, none => none

structure Expansion where
  column : Nat := 0
  converts : Bool := true
  written : Bytes := []

def isBlank (c : Char) : Bool :=
  c == ' ' || c == '\t'

/-- One more character; unless the whole line is converted, tabs are only up to the first character
    that is no blank. -/
def Expansion.step (stops : Stops) (whole : Bool) (e : Expansion) (c : Char) : Expansion :=
  let e :=
    if !e.converts then { e with written := c :: e.written }
    else if c == '\t' then
      let next := (stops.next? e.column).getD (e.column + 1)
      { e with
        column := next
        written := List.replicate (max 1 (next - e.column)) ' ' ++ e.written }
    else
      { column := if c == '\x08' then e.column - 1 else e.column + 1
        converts := whole || c == ' '
        written := c :: e.written }
  if c == '\n' then { e with column := 0, converts := true } else e

def expanded (stops : Stops) (whole : Bool) (text : Bytes) : Bytes :=
  (text.foldl (Expansion.step stops whole) {}).written.reverse

structure Contraction where
  column : Nat := 0
  converts : Bool := true
  afterBlank : Bool := true
  alone : Bool := false
  waiting : Bytes := []
  written : Bytes := []

def Contraction.rest (t : Contraction) : Bytes :=
  if 1 < t.waiting.length && t.alone then t.waiting.dropLast ++ ['\t'] else t.waiting

def Contraction.put (t : Contraction) (c : Char) (blank whole : Bool) : Contraction :=
  { t with
    written := c :: t.rest ++ t.written
    waiting := []
    alone := t.alone && t.waiting.isEmpty
    afterBlank := blank
    converts := t.converts && (whole || blank) }

def Contraction.meet (stops : Stops) (whole : Bool) (t : Contraction) (c : Char) : Contraction :=
  if isBlank c then
    match stops.next? t.column with
    | none => { t with converts := false }.put c true whole
    | some next =>
      let kept (blanks : Bytes) : Bytes := if t.alone then blanks.drop (blanks.length - 1) else []
      if c == '\t' then
        let waiting := if t.waiting.isEmpty then [] else t.waiting.dropLast ++ ['\t']
        { t with column := next, waiting := kept waiting }.put c true whole
      else
        let column := t.column + 1
        if t.afterBlank && column == next then
          let waiting := if t.waiting.isEmpty then ['\t'] else t.waiting.dropLast ++ ['\t']
          { t with column, waiting := kept waiting }.put '\t' true whole
        else
          { t with
            column
            alone := t.alone || column == next
            waiting := c :: t.waiting
            afterBlank := true }
  else if c == '\x08' then { t with column := t.column - 1 }.put c false whole
  else { t with column := t.column + 1 }.put c false whole

def Contraction.step (stops : Stops) (whole : Bool) (t : Contraction) (c : Char) : Contraction :=
  let t := if t.converts then t.meet stops whole c else { t with written := c :: t.written }
  if c == '\n' then { column := 0, written := t.written } else t

def contracted (stops : Stops) (whole : Bool) (text : Bytes) : Bytes :=
  let t := text.foldl (Contraction.step stops whole) {}
  (t.rest ++ t.written).reverse

def convert (told : Except Defect Stops) (paths : List Bytes) (change : Stops → Bytes → Bytes) :
    Run Nat := do
  match told with
  | .error e => refuse 1 e.message
  | .ok stops =>
    let (inputs, good) ← streamsOf paths
    emit (change stops (inputs.flatMap (·.2)))
    return if good then 0 else 1

end Tabs

open Tabs in
def expand (arguments : List Bytes) : Run Nat :=
  withOptions ("it:" ++ digitLetters) [("initial", 'i'), ("tabs", 't')] false 1 arguments fun o =>
    let lists := (o.letters.map (withDigits 't')).filter (·.1 == 't')
    let told := do (← lists.foldlM (fun s l => read s none [] l.2) {}).settled
    convert told o.rest fun stops => expanded stops (!o.has 'i')

open Tabs in
def unexpand (arguments : List Bytes) : Run Nat :=
  let long := [("all", 'a'), ("first-only", 'f'), ("tabs", 't')]
  withOptions "at:,0123456789" long false 1 arguments fun o =>
    let lists := (o.letters.filter (·.1 == 't')).map (·.2)
    /- Digits and commas that are options make up a list of their own. -/
    let list := (o.letters.map (·.1)).filter fun c => c.isDigit || c == ','
    let told := do (← (lists ++ [list]).foldlM (fun s text => read s none [] text) {}).settled
    let whole := (o.has 'a' || o.has 't') && !o.has 'f'
    convert told o.rest fun stops => contracted stops whole

end Gesture.Shell.Program
