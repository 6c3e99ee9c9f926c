import Gesture.Shell.Arithmetic
import Gesture.Shell.Engine

namespace Gesture.Shell.Expansion

variable (e : Engine)

def optionLetters : List Char :=
  "ubaECVvxsnmiIfe".toList

def firstSeparator (p : Process) : List Cell :=
  match p.bindings.lookup "IFS".toList |>.bind (·.value) with
  | some (c :: _) => Cell.ofBytes true [c]
  | some [] => []
  | none => [.char ' ' false]

def argumentCells (quoted : Bool) (between : List Cell) (arguments : List Bytes) : List Cell :=
  between.intercalate (arguments.map (Cell.ofBytes quoted))

def valueCells? (p : Process) (manner : Manner) (quoted : Bool) (name : Bytes) :
    Option (List Cell) :=
  let shown (n : Nat) : Option (List Cell) := some (Cell.ofBytes quoted (Run.number n))
  let isSeparatorSet := ((p.bindings.lookup "IFS".toList).bind (·.value)).isSome
  match name with
  | ['$'] => shown p.shellId
  | ['?'] => shown p.status
  | ['#'] => shown p.arguments.length
  | ['!'] => p.latestJob.bind shown
  | ['-'] => some (Cell.ofBytes quoted (optionLetters.filter p.options.contains))
  | ['@'] =>
    if manner.fields && (quoted || isSeparatorSet) then
      some (argumentCells quoted [.gap] p.arguments)
    else some (argumentCells quoted (firstSeparator p) p.arguments)
  | ['*'] =>
    if manner.fields && !quoted && isSeparatorSet then
      some (argumentCells quoted [.gap] p.arguments)
    else some (argumentCells quoted (firstSeparator p) p.arguments)
  | c :: _ =>
    if c.isDigit then
      let n := Text.decimalValue name
      if n = 0 then some (Cell.ofBytes quoted p.name)
      else p.arguments[n - 1]?.map (Cell.ofBytes quoted)
    else ((p.bindings.lookup name).bind (·.value)).map (Cell.ofBytes quoted)
  | [] => none

def asValue (p : Process) (quoted : Bool) (name : Bytes) (cells : List Cell) : List Cell :=
  if !quoted then .start false :: cells ++ [.stop]
  else if name == ['@'] && !p.arguments.isEmpty then .start true :: cells ++ [.stop]
  else cells

def missingMessage (name : Bytes) (reason : Bytes) : Bytes :=
  name ++ ": ".toList ++ reason

def textOf (cells : List Cell) : Bytes :=
  cells.filterMap Cell.toChar?

def beforeGap (text : Bytes) : Bytes :=
  text.takeWhile (· != '\x00')

def isQuoted : Cell → Bool
  | .char _ quoted => quoted
  | _ => false

def fromEnd (cells : List Cell) : List (Nat × Nat) :=
  let first := cells.takeWhile (· != .gap)
  let last := if first.any isQuoted then first.length else cells.length
  (List.range (last + 1)).map fun n => (cells.length - n, last - n)

def fromStart (cells : List Cell) : List (Nat × Nat) :=
  (List.range ((cells.takeWhile (· != .gap)).length + 1)).map fun n => (n, n)

def trimStart (longest : Bool) (pattern : List Glob.Item) (cells : List Cell) : List Cell :=
  let text := textOf cells
  let places := if longest then fromEnd cells else fromStart cells
  match places.find? fun p => Glob.accepts pattern (beforeGap (text.take p.2)) with
  | some (place, _) => cells.drop place
  | none => cells

def trimEnd (longest : Bool) (pattern : List Glob.Item) (cells : List Cell) : List Cell :=
  let first := cells.takeWhile (· != .gap)
  let text := if first.any isQuoted then textOf first else textOf cells
  let places := if longest then fromStart cells else fromEnd cells
  match places.find? fun p => Glob.accepts pattern (beforeGap (text.drop p.2)) with
  | some (place, _) => cells.take place
  | none => cells

def plainText (manner : Manner) (w : Word) : Run Bytes := do
  return Cell.plain (← e.expand manner w)

def parameter (manner : Manner) (quoted : Bool) (name : Bytes) (use : Use) (filled : Bool)
    (word : Word) : Run (List Cell) := do
  let p ← Run.process
  if use == .unknown then Run.failWith "Bad substitution".toList
  let cells? := valueCells? p manner quoted name
  let present := match cells? with
    | some cells => !(filled && cells.isEmpty)
    | none => false
  let value := cells?.getD []
  let replacement : Run (List Cell) :=
    e.expand { manner with quoted, inner := true, tilde := .start } word
  let needed : Run Unit := do
    if !present && p.options.contains 'u' then
      Run.failWith (missingMessage name "parameter not set".toList)
  match use with
  | .value =>
    needed
    return if cells?.isSome then asValue p quoted name value else []
  | .length =>
    needed
    return asValue p quoted [] (Cell.ofBytes quoted (Run.number value.length))
  | .orElse => if present then return asValue p quoted name value else replacement
  | .instead => if present then replacement else return []
  | .assign =>
    if present then return asValue p quoted name value
    let text ← plainText e { tilde := .start } word
    if !isName name then Run.failWith (name ++ ": bad variable name".toList)
    Run.assign name text false
    return asValue p quoted name (Cell.ofBytes quoted text)
  | .require =>
    if present then return asValue p quoted name value
    let text ← plainText e { tilde := .start } word
    let usual := "parameter not set".toList ++ (if filled then " or null".toList else [])
    Run.failWith (missingMessage name (if word.isEmpty then usual else text))
  | .trimStart longest | .trimEnd longest =>
    needed
    if cells?.isNone then return []
    let pattern := Glob.items (Cell.pattern (← e.expand { tilde := .start } word))
    let trimmed := match use with
      | .trimStart _ => trimStart longest pattern value
      | _ => trimEnd longest pattern value
    return asValue p quoted name trimmed
  | .unknown => return []

def dropLineEnds (text : Bytes) : Bytes :=
  (text.reverse.dropWhile (· == '\n')).reverse

def output (script : Script) : Run Bytes := do
  match script with
  | none => return []
  | some c =>
    let (channel, _, writer) ← Run.newChannel 1000000
    let child ← e.subshell
      (fun p => { p with descriptors := Run.bound 1 writer p.descriptors })
      (do let _ ← e.command c { last := true })
    let contents := ((← get).channels[channel]?.map (·.contents)).getD []
    Run.waitUntil (((← get).channels[channel]?.map (·.closing)).getD child.ending)
    let status ← Engine.join child
    Run.update fun p => { p with substituted := status }
    return dropLineEnds (contents.filter (· != '\x00'))

def home? (p : Process) (name : Bytes) : Option Bytes :=
  if name.isEmpty then Run.valueOf p "HOME"
  else if name == "root".toList then some "/root".toList
  else none

def tildeName? (colons : Bool) : Word → Option (Bytes × Word)
  | [] => some ([], [])
  | .char c false :: rest =>
    if c == '/' || (colons && c == ':') then some ([], .char c false :: rest)
    else (tildeName? colons rest).map fun p => (c :: p.1, p.2)
  | _ => none

def tilde (p : Process) (colons : Bool) (parts : Word) : List Cell × Word :=
  match parts with
  | .char '~' false :: rest =>
    match tildeName? colons rest with
    | some (name, after) =>
      match home? p name with
      | some path => (Cell.ofBytes true path, after)
      | none => ([], parts)
    | none => ([], parts)
  | _ => ([], parts)

structure Progress where
  rest : Word
  cells : List Cell := []
  quotes : Bool := false
  tilde : Tilde

def plainRun : Word → List Cell × Word
  | .char c false :: rest =>
    let (run, after) := plainRun rest
    (.char c false :: run, after)
  | parts => ([], parts)

def nextPart (manner : Manner) (s : Progress) : Run (Progress ⊕ List Cell) := do
  let quoted := manner.quoted || s.quotes
  let splits := manner.inner && !manner.quoted && !s.quotes
  match s.rest with
  | [] => return .inr s.cells.reverse
  | .quote :: rest =>
    match s.quotes, rest with
    | false, .parameter ['@'] .value _ _ :: .quote :: after =>
      let cells ← parameter e manner true ['@'] .value false []
      return .inl { s with rest := after, cells := cells.reverse ++ s.cells }
    | quotes, _ => return .inl { s with rest, cells := .quote :: s.cells, quotes := !quotes }
  | .parameter name use filled word :: rest =>
    let cells ← parameter e manner quoted name use filled word
    return .inl { s with rest, cells := cells.reverse ++ s.cells }
  | .output script :: rest =>
    let cells := Cell.ofBytes quoted (← output e script)
    let cells := if quoted then cells else .start false :: cells ++ [.stop]
    return .inl { s with rest, cells := cells.reverse ++ s.cells }
  | .sum expression :: rest =>
    let n ← Arithmetic.evaluate (← plainText e { quoted := true } expression)
    let cells := Cell.ofBytes quoted (Number.shown n)
    let cells := if quoted then cells else .start false :: cells ++ [.stop]
    return .inl { s with rest, cells := cells.reverse ++ s.cells }
  | .char c hidden :: rest =>
    if splits && !hidden then
      let (run, rest) := plainRun s.rest
      return .inl { s with rest, cells := .stop :: run.reverse ++ .start false :: s.cells }
    let s := { s with rest, cells := .char c hidden :: s.cells }
    let atTilde := !hidden && match s.tilde with
      | .value => c == ':'
      | .assignment => c == '='
      | _ => false
    if atTilde then
      let (found, rest) := tilde (← Run.process) true rest
      return .inl { s with rest, cells := found.reverse ++ s.cells, tilde := .value }
    return .inl s

def expand (manner : Manner) (w : Word) : Run (List Cell) := do
  let (found, rest) ← match manner.tilde with
    | .start => pure (tilde (← Run.process) false w)
    | .value => pure (tilde (← Run.process) true w)
    | _ => pure ([], w)
  iterate .stalled (nextPart e manner) (w.length + 1)
    { rest, cells := found.reverse, tilde := manner.tilde }

def fields (w : Word) : Run (List Bytes) := do
  let cells ← e.expand { fields := true, tilde := .start } w
  let m ← get
  let separators := (Run.valueOf m.process "IFS").getD Fields.usualSeparators
  let found := Fields.split separators none cells
  if m.process.options.contains 'f' then return found.map Cell.plain
  return found.flatMap (Fields.paths m.tree m.process.working)

def single (w : Word) : Run Bytes :=
  plainText e { tilde := .start } w

def assigned (w : Word) : Run Bytes :=
  plainText e { tilde := .value } w

def assignment (w : Word) : Run Bytes :=
  plainText e { tilde := .assignment } w

def document (w : Word) : Run Bytes :=
  plainText e { quoted := true } w

def matches? (w : Word) (text : Bytes) : Run Bool := do
  let cells ← e.expand { tilde := .start } w
  return Glob.accepts (Glob.items (Cell.pattern cells)) text

end Gesture.Shell.Expansion
