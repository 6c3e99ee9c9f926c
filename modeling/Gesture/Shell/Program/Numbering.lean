import Gesture.Shell.Program.Size
import Gesture.Shell.Regular

namespace Gesture.Shell.Program

namespace Numbered

inductive Choice where
  | all
  | filled
  | none
  | matching (e : Regular.Compiled)

inductive Form where
  | left
  | right
  | zeros
  deriving DecidableEq, Repr

inductive Part where
  | header
  | body
  | footer
  deriving DecidableEq, Repr

structure Style where
  header : Choice := .none
  body : Choice := .filled
  footer : Choice := .none
  start : Int := 1
  step : Int := 1
  restarts : Bool := true
  group : Nat := 1
  separator : Bytes := ['\t']
  width : Nat := 6
  form : Form := .right
  delimiter : Bytes := ['\\', ':']

def Style.choice (s : Style) : Part → Choice
  | .header => s.header
  | .body => s.body
  | .footer => s.footer

def Style.mark (s : Style) (n : Int) : Bytes :=
  let digits := Number.shown n
  let number := match s.form with
    | .left => padRight s.width digits
    | .right => padLeft ' ' s.width digits
    | .zeros =>
      if n < 0 then '-' :: padLeft '0' (s.width - 1) (Number.shown (-n))
      else padLeft '0' s.width digits
  number ++ s.separator

def Style.partAt? (s : Style) (line : Bytes) : Option Part :=
  let d := s.delimiter
  if d.length < 2 then none
  else if line == d ++ d ++ d then some .header
  else if line == d ++ d then some .body
  else if line == d then some .footer
  else none

structure Progress where
  part : Part := .body
  next : Int
  empty : Nat := 0
  deriving DecidableEq, Repr

def Style.decide (s : Style) (p : Progress) (line : Bytes) : Bool × Nat :=
  match s.choice p.part with
  | .none => (false, p.empty)
  | .filled => (!line.isEmpty, p.empty)
  | .matching e =>
    ((e.search? { text := (Regular.wide line).toArray } 0).isSome, p.empty)
  | .all =>
    if s.group ≤ 1 || !line.isEmpty || p.empty + 1 = s.group then (true, 0)
    else (false, p.empty + 1)

def Style.line (s : Style) (p : Progress) (line : Bytes) : Bytes × Progress :=
  match s.partAt? line with
  | some part => (['\n'], { p with part, next := if s.restarts then s.start else p.next })
  | none =>
    let (numbered, empty) := s.decide p line
    if numbered then (s.mark p.next ++ line ++ ['\n'], { p with next := p.next + s.step, empty })
    else
      let blank := List.replicate (s.width + s.separator.length) ' '
      (blank ++ line ++ ['\n'], { p with empty })

def Style.lines (s : Style) (lines : List Bytes) : Bytes :=
  let written := lines.foldl
    (fun (before, p) line =>
      let (text, p) := s.line p line
      (text :: before, p))
    (([] : List Bytes), ({ next := s.start } : Progress))
  written.1.reverse.flatten

def choice? (text : Bytes) : Option (Except String Choice) :=
  match text with
  | 'a' :: _ => some (.ok .all)
  | 't' :: _ => some (.ok .filled)
  | 'n' :: _ => some (.ok .none)
  | 'p' :: pattern =>
    match Regular.compile .basic (Regular.wide pattern) with
    | .ok e => some (.ok (.matching e))
    | .error e => some (.error e.message)
  | _ => none

structure Wrong where
  message : String
  final : Bool

def number (what : String) (least most : Int) (text : Bytes) : Except Wrong Int :=
  match Size.integer least most text with
  | .ok n => .ok n
  | .error e => .error ⟨"invalid " ++ what ++ ": " ++ inRoundQuotes text ++ e.reason, true⟩

def chosen (what : String) (text : Bytes) : Except Wrong Choice :=
  match choice? text with
  | some (.ok c) => .ok c
  | some (.error message) => .error ⟨message, true⟩
  | none =>
    .error ⟨"invalid " ++ what ++ " numbering style: " ++ inRoundQuotes text, false⟩

def Style.with (s : Style) (letter : Char) (value : Bytes) : Except Wrong Style := do
  match letter with
  | 'h' => return { s with header := ← chosen "header" value }
  | 'b' => return { s with body := ← chosen "body" value }
  | 'f' => return { s with footer := ← chosen "footer" value }
  | 'v' =>
    return { s with start := ← number "starting line number" Number.least Number.greatest value }
  | 'i' =>
    return { s with step := ← number "line number increment" Number.least Number.greatest value }
  | 'p' => return { s with restarts := false }
  | 'l' =>
    let n ← number "line number of blank lines" 1 Number.greatest value
    return { s with group := n.toNat }
  | 's' => return { s with separator := value }
  | 'w' =>
    let n ← number "line number field width" 1 2147483647 value
    return { s with width := n.toNat }
  | 'n' =>
    match String.ofList value with
    | "ln" => return { s with form := .left }
    | "rn" => return { s with form := .right }
    | "rz" => return { s with form := .zeros }
    | _ => throw ⟨"invalid line numbering format: " ++ inRoundQuotes value, false⟩
  | 'd' =>
    match value with
    | [] => return s
    | [c] => return { s with delimiter := c :: s.delimiter.drop 1 }
    | text => return { s with delimiter := text }
  | _ => return s

end Numbered

open Numbered in
def nl (arguments : List Bytes) : Run Nat :=
  let long := [("header-numbering", 'h'), ("body-numbering", 'b'), ("footer-numbering", 'f'),
    ("starting-line-number", 'v'), ("line-increment", 'i'), ("no-renumber", 'p'),
    ("join-blank-lines", 'l'), ("number-separator", 's'), ("number-width", 'w'),
    ("number-format", 'n'), ("section-delimiter", 'd')]
  withOptions "h:b:f:v:i:pl:s:w:n:d:" long false 1 arguments fun o => do
    let (style, wrong) := o.letters.foldl
      (fun ((s : Style), (wrong : List Wrong)) (letter, value) =>
        match s.with letter value with
        | .ok s => (s, wrong)
        | .error w => (s, wrong ++ [w]))
      ({}, [])
    match wrong.findIdx? (·.final) with
    | some i =>
      (wrong.take (i + 1)).forM fun w => complain w.message
      return 1
    | none =>
      wrong.forM fun w => complain w.message
      if !wrong.isEmpty then hint 1
      else
        let (inputs, good) ← streamsOf o.rest
        emit (style.lines (inputs.flatMap fun input => linesOf input.2))
        return if good then 0 else 1

end Gesture.Shell.Program
