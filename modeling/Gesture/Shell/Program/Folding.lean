import Gesture.Shell.Program.Size

namespace Gesture.Shell.Program

namespace Fold

def columnAfter (bytes : Bool) (column : Nat) (c : Char) : Nat :=
  if bytes then column + 1
  else if c == '\x08' then column - 1
  else if c == '\r' then 0
  else if c == '\t' then column + 8 - column % 8
  else column + 1

structure Style where
  width : Nat
  bytes : Bool
  atBlanks : Bool

structure Progress where
  column : Nat := 0
  line : Bytes := []
  written : Bytes := []

/-- One more character. If it does not fit, the line ends before it, or after its last blank; what
    comes after that blank may be too long for a line again, so it is tried a limited number of
    times. -/
def Progress.add (s : Style) (c : Char) : Nat → Progress → Progress
  | 0, p => { p with line := c :: p.line }
  | limit + 1, p =>
    let column := columnAfter s.bytes p.column c
    let isBlank (d : Char) : Bool := d == ' ' || d == '\t'
    if column ≤ s.width then { p with column, line := c :: p.line }
    else if s.atBlanks && p.line.any isBlank then
      let after := p.line.takeWhile fun d => !isBlank d
      let before := p.line.drop after.length
      Progress.add s c limit
        { column := after.reverse.foldl (columnAfter s.bytes) 0
          line := after
          written := '\n' :: before ++ p.written }
    else if p.line.isEmpty then { p with column, line := [c] }
    else Progress.add s c limit { written := '\n' :: p.line ++ p.written }

def Progress.step (s : Style) (p : Progress) (c : Char) : Progress :=
  if c == '\n' then { written := '\n' :: p.line ++ p.written }
  else p.add s c (p.line.length + 2)

def folded (s : Style) (text : Bytes) : Bytes :=
  let p := text.foldl (Progress.step s) {}
  (p.line ++ p.written).reverse

end Fold

def fold (arguments : List Bytes) : Run Nat :=
  let long := [("width", 'w'), ("spaces", 's'), ("bytes", 'b')]
  withOptions ("w:sb" ++ digitLetters) long false 1 arguments fun o => do
    let widths := (o.letters.map (withDigits 'w')).filter (·.1 == 'w')
    let read ← widths.mapM fun (_, text) => do
      match Size.between 1 (Size.greatest - 9) "" text with
      | .ok n => return some n
      | .error e =>
        complain ("invalid number of columns: " ++ inRoundQuotes text ++ e.reason)
        return none
    match read.mapM id with
    | none => return 1
    | some widths =>
      let s : Fold.Style := ⟨widths.getLastD 80, o.has 'b', o.has 's'⟩
      let (inputs, good) ← streamsOf o.rest
      inputs.forM fun (_, text) => emit (Fold.folded s text)
      return if good then 0 else 1

end Gesture.Shell.Program
