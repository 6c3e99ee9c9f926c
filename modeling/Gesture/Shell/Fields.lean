import Gesture.Shell.Glob
import Gesture.Shell.Lexer
import Gesture.Shell.Tree

namespace Gesture.Shell

inductive Cell where
  | char (c : Char) (quoted : Bool)
  | quote
  | gap
  | start (argumentsOnly : Bool)
  | stop
  deriving DecidableEq, Repr

namespace Cell

def ofBytes (quoted : Bool) (bytes : Bytes) : List Cell :=
  bytes.map fun c => .char c (quoted && (Lexer.isMagic c || c == '\\'))

def toChar? : Cell → Option Char
  | .char c _ => some c
  | .gap => some '\x00'
  | _ => none

def plain (cells : List Cell) : Bytes :=
  cells.filterMap fun
    | .char c _ => some c
    | _ => none

def pattern (cells : List Cell) : List Glob.Sign :=
  cells.filterMap fun
    | .char c quoted => some (c, quoted)
    | _ => none

end Cell

namespace Fields

structure Split where
  done : List (List Cell) := []
  current : List Cell := []
  blanks : Bool := false
  inside : Bool := false
  argumentsOnly : Bool := false
  afterArguments : Bool := false
  room : Option Nat
  trimmed : Option (List Cell) := none

def usualSeparators : Bytes := [' ', '\t', '\n']

def Split.close (s : Split) : Split :=
  { s with done := s.current.reverse :: s.done, current := [] }

def Split.take (separators : Bytes) (s : Split) (cell : Cell) (c : Char) : Split :=
  let separates := c == '\x00' || (!s.argumentsOnly && separators.contains c)
  let isBlank := separates && (c == '\x00' || usualSeparators.contains c)
  let added := { s with current := cell :: s.current }
  if s.room = some 0 then
    if isBlank then { added with trimmed := s.trimmed.or (some s.current) }
    else
      { added with
        trimmed := if separates && s.blanks then s.trimmed else none
        blanks := false }
  else if s.blanks then
    if isBlank then { s with current := [] }
    else if separates then { s with current := [], blanks := false }
    else { s with current := [cell], blanks := false }
  else if separates then
    let blanks := if s.afterArguments || s.argumentsOnly then s.blanks else isBlank
    if s.current.isEmpty && blanks then { s with blanks := false }
    else
      match s.room with
      | some 1 => { added with room := some 0, trimmed := some s.current, blanks }
      | room => { s.close with room := room.map (· - 1), blanks }
  else { added with blanks := false }

def Split.step (separators : Bytes) (s : Split) (cell : Cell) : Split :=
  match cell with
  | .start argumentsOnly =>
    { s with
      inside := true, blanks := false, afterArguments := s.argumentsOnly, argumentsOnly }
  | .stop => { s with inside := false }
  | .gap => if s.inside then s.take separators cell '\x00' else s
  | .char c _ =>
    if s.inside then s.take separators cell c else { s with current := cell :: s.current }
  | .quote => { s with current := cell :: s.current }

def split (separators : Bytes) (room : Option Nat) (cells : List Cell) : List (List Cell) :=
  let s := cells.foldl (Split.step separators) { room }
  let last := s.trimmed.getD s.current
  let done := if last.isEmpty && !s.argumentsOnly then s.done else last.reverse :: s.done
  done.reverse

def pathParts (pattern : List Glob.Sign) : List (Bytes × List Glob.Sign) :=
  let (parts, slashes, part) := pattern.foldl
    (fun (parts, slashes, part) s =>
      if s.1 == '/' then
        if part.isEmpty then (parts, '/' :: slashes, [])
        else ((slashes, part.reverse) :: parts, ['/'], [])
      else (parts, slashes, s :: part))
    (([] : List (Bytes × List Glob.Sign)), ([] : Bytes), ([] : List Glob.Sign))
  let parts := if part.isEmpty && slashes.isEmpty then parts else (slashes, part.reverse) :: parts
  parts.reverse

def startsWithDot (part : List Glob.Sign) : Bool :=
  (Glob.signs part).head?.map (·.1) == some '.'

def pathsFrom (t : Tree) (working : Place) : List (Bytes × List Glob.Sign) → Bytes → List Bytes
  | [], before => [before]
  | (slashes, part) :: rest, before =>
    let directory := before ++ slashes
    if Glob.hasMagic part then
      match t.find working (if directory.isEmpty then ['.'] else directory) true with
      | .error _ => []
      | .ok place =>
        if t.node? place != some .directory then []
        else
          let items := Glob.items part
          let dotted := startsWithDot part
          let names := if dotted then ['.'] :: ['.', '.'] :: t.names place else t.names place
          let fitting := names.filter fun name =>
            (dotted || name.head? != some '.') && Glob.accepts items name
          fitting.flatMap fun name =>
            let path := directory ++ name
            if rest.isEmpty then [path]
            else
              match t.look working path true with
              | .ok .directory => pathsFrom t working rest path
              | _ => []
    else
      let path := directory ++ (Glob.signs part).map (·.1)
      if !rest.isEmpty then pathsFrom t working rest path
      else
        match t.look working path false with
        | .ok _ => [path]
        | .error _ => []

def paths (t : Tree) (working : Place) (field : List Cell) : List Bytes :=
  let pattern := Cell.pattern field
  if Glob.hasMagic pattern then
    match pathsFrom t working (pathParts pattern) [] with
    | [] => [Cell.plain field]
    | found => found.mergeSort Bytes.isSorted
  else [Cell.plain field]

end Fields

end Gesture.Shell
