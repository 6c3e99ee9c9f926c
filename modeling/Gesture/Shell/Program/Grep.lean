import Gesture.Shell.Program.Ends
import Gesture.Shell.Program.Entry
import Gesture.Shell.Program.Lookaround

namespace Gesture.Shell.Program

namespace Grep

inductive Kind where
  | basic
  | extended
  | fixed
  | lookaround
  deriving DecidableEq, Repr

inductive Extent where
  | anywhere
  | word
  | line
  deriving DecidableEq, Repr

def bounded (extent : Extent) (e : Regular.Expr) : Regular.Expr :=
  match extent with
  | .anywhere => e
  | .word => .sequence (.anchor .afterWord) (.sequence e (.anchor .beforeWord))
  | .line => .sequence (.anchor .lineStart) (.sequence e (.anchor .lineEnd))

def compileOne (kind : Kind) (extent : Extent) (pattern : Bytes) :
    Except Regular.Error Regular.Compiled := do
  let text := Regular.wide pattern
  let compiled ← match kind with
    | .fixed =>
      let body := text.foldr (fun c e => Regular.Expr.sequence (.atom (.char c)) e) .empty
      pure (⟨body, 0⟩ : Regular.Compiled)
    | kind => Regular.compile (.search (kind == .extended)) text
  return { compiled with expr := bounded extent compiled.expr }

inductive Matcher where
  | regular (patterns : List Regular.Compiled)
  | lookaround (pattern : Lookaround.Pattern)

/-- Where the first match from a place on begins and ends. Of several patterns, the leftmost match
    counts, and of those the longest. -/
def Matcher.find? (m : Matcher) (subject : Regular.Subject) (place : Nat) : Option (Nat × Nat) :=
  match m with
  | .lookaround pattern => pattern.find? subject.text place
  | .regular patterns =>
    (patterns.filterMap (·.search? subject place)).foldl
      (fun best f =>
        match best with
        | none => some (f.first, f.last)
        | some (first, last) =>
          if f.first < first || (f.first == first && last < f.last) then some (f.first, f.last)
          else best)
      none

def Matcher.all (m : Matcher) (subject : Regular.Subject) : Nat → Nat → List (Nat × Nat)
  | 0, _ => []
  | limit + 1, place =>
    match m.find? subject place with
    | none => []
    | some (first, last) =>
      if last ≤ first then
        if first < subject.text.size then m.all subject limit (first + 1) else []
      else (first, last) :: m.all subject limit last

structure Plan where
  matcher : Matcher
  ignoresCase : Bool
  inverted : Bool
  most : Option Nat
  before : Option Nat
  after : Option Nat
  ending : Char
  colored : Bool := false
  separator : Option Bytes := some ['-', '-']
  o : Options

def Plan.subject (p : Plan) (line : Bytes) : Regular.Subject :=
  { text := (Regular.wide line).toArray, ignoresCase := p.ignoresCase, isWide := true }

def Plan.selects (p : Plan) (line : Bytes) : Bool :=
  (p.matcher.find? (p.subject line) 0).isSome != p.inverted

def Plan.lines (p : Plan) (text : Bytes) : List Bytes :=
  linesBy p.ending text

/-- How many bytes of a text there are up to the end of so many wanted lines, if there are enough. -/
def Plan.enough? (p : Plan) (wanted : Nat) (text : Bytes) : Option Nat :=
  let step (s : Nat × Nat × Option Nat) (line : Bytes) : Nat × Nat × Option Nat :=
    let (count, length, found) := s
    if found.isSome then s
    else
      let length := length + line.length + 1
      let count := if p.selects line then count + 1 else count
      (count, length, if count = wanted then some length else none)
  let ended := (text.splitOn p.ending).dropLast
  (ended.foldl step (0, 0, none)).2.2

def Plan.read (p : Plan) (descriptor : Nat) : Run (Except FileError Bytes) := do
  let wanted := if p.o.has 'q' || p.o.has 'l' || p.o.has 'L' then some 1 else p.most
  match wanted with
  | none =>
    match ← Run.receiveKnown descriptor with
    | .error e => return .error e
    | .ok (text, endless) =>
      if endless then Run.update fun p => { p with unfinished := true }
      return .ok text
  | some 0 => return .ok []
  | some n =>
    if p.after.getD 0 ≠ 0 then Run.receiveAll descriptor
    else readUntil descriptor 65536 (p.enough? n)

structure Line where
  number : Nat
  offset : Nat
  text : Bytes
  wanted : Bool

def Plan.marked (p : Plan) (lines : List Bytes) : List Line :=
  let step (s : List Line × Nat × Nat) (line : Bytes) : List Line × Nat × Nat :=
    let (done, offset, count) := s
    let full := (p.most.map (decide <| · ≤ count)).getD false
    let wanted := !full && p.selects line
    (⟨done.length + 1, offset, line, wanted⟩ :: done, offset + line.length + 1,
      if wanted then count + 1 else count)
  (lines.foldl step ([], 0, 0)).1.reverse

def Plan.paint (p : Plan) (color : String) (text : Bytes) : Bytes :=
  if !p.colored then text
  else "\x1b[".toList ++ color.toList ++ "m\x1b[K".toList ++ text ++ "\x1b[m\x1b[K".toList

def Plan.sign (p : Plan) (sign : Char) : Bytes :=
  p.paint "36" [sign]

def Plan.title (p : Plan) (name : Bytes) (sign : Char) : Bytes :=
  p.paint "35" name ++ (if p.o.has 'Z' then ['\x00'] else p.sign sign)

def Plan.front (p : Plan) (name : Option Bytes) (sign : Char) (number offset : Nat)
    (isEmpty : Bool) : Bytes :=
  let parts := (name.map (p.title · sign)).getD [] ++
    (if p.o.has 'n' then p.paint "32" (Run.number number) ++ p.sign sign else []) ++
    (if p.o.has 'b' then p.paint "32" (Run.number offset) ++ p.sign sign else [])
  if p.o.has 'T' && !parts.isEmpty && !isEmpty then parts ++ ['\t'] else parts

def Plan.matches (p : Plan) (line : Bytes) : List Char × List (Nat × Nat) :=
  let subject := p.subject line
  let wide := subject.text.toList
  (wide, p.matcher.all subject (wide.length + 1) 0)

def Plan.highlighted (p : Plan) (line : Bytes) : Bytes :=
  let (wide, found) := p.matches line
  let (written, place) := found.foldl
    (fun (before, place) (first, last) =>
      (before ++ Regular.narrow ((wide.take first).drop place) ++
        p.paint "01;31" (Regular.narrow ((wide.take last).drop first)), last))
    (([] : Bytes), 0)
  written ++ Regular.narrow (wide.drop place)

def Plan.lineText (p : Plan) (name : Option Bytes) (l : Line) : Bytes :=
  let sign := if l.wanted then ':' else '-'
  if p.o.has 'o' then
    if p.inverted || !l.wanted then []
    else
      let (wide, found) := p.matches l.text
      found.flatMap fun (first, last) =>
        let offset := l.offset + (Regular.narrow (wide.take first)).length
        p.front name sign l.number offset false ++
          p.paint "01;31" (Regular.narrow ((wide.take last).drop first)) ++ [p.ending]
  else
    let text := if p.colored && l.wanted != p.inverted then p.highlighted l.text else l.text
    p.front name sign l.number l.offset l.text.isEmpty ++ text ++ [p.ending]

/-- The lines that are written: those that are wanted and those near them. Where lines are apart, or
    come after those of another file, that is marked if lines around others were asked for. -/
def Plan.written (p : Plan) (name : Option Bytes) (used : Bool) (lines : List Line) : List Bytes :=
  if p.before.isNone && p.after.isNone then
    (lines.filter (·.wanted)).map (p.lineText name)
  else
    let numbers := (lines.filter (·.wanted)).map (·.number)
    let isNear (n : Nat) : Bool :=
      numbers.any fun m => n ≤ m + p.after.getD 0 && m ≤ n + p.before.getD 0
    let near := lines.filter fun l => isNear l.number
    let mark : List Bytes := match p.separator with
      | some text => [p.paint "36" text ++ ['\n']]
      | none => []
    let step (s : List Bytes × Option Nat) (l : Line) : List Bytes × Option Nat :=
      let (done, last) := s
      let apart := match last with
        | some n => decide (n + 1 < l.number)
        | none => used
      (p.lineText name l :: (if apart then mark else []) ++ done, some l.number)
    (near.foldl step ([], none)).1.reverse

def hasStray (text : Bytes) : Bool :=
  (Regular.wide text).any Regular.isStray

def Plan.listed? (p : Plan) : Option Bool :=
  (p.o.letters.reverse.find? fun l => l.1 == 'l' || l.1 == 'L').map (·.1 == 'l')

/-- Looks through one file, after lines of others if some were written. Whether a line was wanted, and
    whether lines were written. -/
def Plan.file (p : Plan) (titled used : Bool) (path : Bytes) (text : Bytes) : Run (Bool × Bool) := do
  let o := p.o
  let isText := o.has 'a' || o.has 'U' || p.ending == '\x00'
  let hasNull := !isText && text.contains '\x00'
  if hasNull && o.has 'I' then return (false, used)
  let text := if hasNull then text.map fun c => if c == '\x00' then '\n' else c else text
  let lines := p.marked (p.lines text)
  let wanted := lines.filter (·.wanted)
  let label := if path == ['-'] then (o.last? '\x01').getD "(standard input)".toList else path
  let name := if titled then some label else none
  let found := !wanted.isEmpty
  if o.has 'q' then return (found, used)
  match p.listed? with
  | some withLines =>
    if found == withLines then
      emit (p.paint "35" label ++ [if o.has 'Z' then '\x00' else '\n'])
    return (found, used)
  | none =>
    if o.has 'c' then
      emitLine ((name.map (p.title · ':')).getD [] ++ Run.number wanted.length)
      return (found, used)
    if !found then return (false, used)
    let message := shown label ++ ": binary file matches"
    if hasNull then
      complain message
      return (true, used)
    let clean := lines.takeWhile fun l => isText || !l.wanted || !hasStray l.text
    let stray := clean.length < lines.length
    let shownLines := if stray then
        clean.take ((clean.reverse.dropWhile fun l => !l.wanted).length)
      else clean
    let written := p.written name used shownLines
    written.forM emit
    if stray then complain message
    return (true, used || !written.isEmpty)

def filesBelow (t : Tree) : Nat → Bytes → Place → List Bytes
  | 0, _, _ => []
  | limit + 1, path, place =>
    (t.sortedNames place).flatMap fun name =>
      let full := if path.isEmpty then name
        else if path.getLast? == some '/' then path ++ name else path ++ '/' :: name
      match t.node? (name :: place) with
      | some .directory => filesBelow t limit full (name :: place)
      | some (.file ..) => [full]
      | _ => []

def filesOf (deep : Bool) (path : Bytes) : Run (List Bytes) := do
  if !deep || path == ['-'] then return [path]
  let m ← get
  let shownPath := if path.isEmpty then ['.'] else path
  match m.tree.find m.process.working shownPath true with
  | .ok place =>
    match m.tree.node? place with
    | some .directory => return filesBelow m.tree 100 path place
    | _ => return [path]
  | .error _ => return [path]

def Plan.files (p : Plan) (titled : Bool) : List Bytes → Bool → Bool × Bool → Run (Bool × Bool)
  | [], _, s => return s
  | path :: rest, used, (found, failed) => do
    let opened ← openInput path
    let text ← match opened with
      | .error e => pure (Except.error e)
      | .ok d => p.read d
    match text with
    | .error e =>
      if e == .isADirectory && p.o.last? 'd' == some "skip".toList then
        p.files titled rest used (found, failed)
      else
        if !p.o.has 's' then complain (shown path ++ ": " ++ e.reason)
        /- What was opened counts as empty. -/
        let isOpened := e == .isADirectory && !p.o.has 'q'
        let (_, used) ← if isOpened then p.file titled used path [] else pure (false, used)
        p.files titled rest used (found, true)
    | .ok text =>
      let (here, used) ← p.file titled used path text
      if here && p.o.has 'q' then return (true, false)
      p.files titled rest used (found || here, failed)

/-- Whether a file is looked through, as patterns for names tell. The last pattern that fits counts;
    if none does, a file is left out if the first pattern tells what to look through. -/
def isIncluded (o : Options) (path : Bytes) : Bool :=
  let patterns := o.letters.filter fun l => l.1 == '\x06' || l.1 == '\x07'
  let fits (pattern : Bytes) : Bool :=
    let items := Glob.items (pattern.map fun c => (c, false))
    Glob.accepts items path || Glob.accepts items (lastPart path)
  match patterns.reverse.find? fun l => fits l.2 with
  | some (letter, _) => letter == '\x06'
  | none => (patterns.head?.map (·.1 == '\x07')).getD true

def patternsOf (o : Options) : Run (Option (List Bytes × List Bytes)) := do
  let given := o.letters.filter fun l => l.1 == 'e' || l.1 == 'f'
  if given.isEmpty then
    match o.rest with
    | pattern :: rest => return some (pattern.splitOn '\n', rest)
    | [] => return none
  else
    let lists ← given.mapM fun (letter, value) => do
      if letter == 'e' then return value.splitOn '\n'
      match ← contentsOf value with
      | .ok text => return linesOf text
      | .error e =>
        complain (shown value ++ ": " ++ e.reason)
        return []
    return some (lists.flatten, o.rest)

def matcherOf (kind : Kind) (extent : Extent) (ignoresCase : Bool) (patterns : List Bytes) :
    Except String Matcher :=
  match kind with
  | .lookaround =>
    let (front, back) := match extent with
      | .anywhere => ("", "")
      | .word => ("(?<![a-zA-Z0-9_])(?:", ")(?![a-zA-Z0-9_])")
      | .line => ("^(?:", ")$")
    match patterns with
    | [pattern] =>
      match Lookaround.compile ignoresCase front.toList back.toList (Regular.wide pattern) with
      | .ok p => .ok (.lookaround p)
      | .error _ => .error "the pattern cannot be used"
    | _ => .error "the -P option only supports a single pattern"
  | kind =>
    match patterns.mapM (compileOne kind extent) with
    | .ok compiled => .ok (.regular compiled)
    | .error e => .error e.message

def usage : Run Nat := do
  let name ← ownName
  Run.say 2 ("Usage: ".toList ++ name ++ " [OPTION]... PATTERNS [FILE]...\nTry '".toList ++ name ++
    " --help' for more information.\n".toList)
  return 2

def longNames : List (String × Char) :=
  [("extended-regexp", 'E'), ("perl-regexp", 'P'), ("fixed-strings", 'F'), ("basic-regexp", 'G'),
    ("regexp", 'e'), ("file", 'f'), ("ignore-case", 'i'), ("no-ignore-case", '\x0b'),
    ("word-regexp", 'w'), ("line-regexp", 'x'), ("invert-match", 'v'), ("count", 'c'),
    ("files-with-matches", 'l'), ("files-without-match", 'L'), ("max-count", 'm'),
    ("only-matching", 'o'), ("quiet", 'q'), ("silent", 'q'), ("no-messages", 's'),
    ("byte-offset", 'b'), ("with-filename", 'H'), ("no-filename", 'h'), ("label", '\x01'),
    ("line-number", 'n'), ("null-data", 'z'), ("after-context", 'A'), ("before-context", 'B'),
    ("context", 'C'), ("text", 'a'), ("recursive", 'r'), ("dereference-recursive", 'R'),
    ("no-group-separator", '\x02'), ("group-separator", '\x05'), ("line-buffered", 'u'),
    ("color", '\x03'), ("colour", '\x03'), ("initial-tab", 'T'), ("null", 'Z'),
    ("directories", 'd'), ("devices", 'D'), ("binary-files", '\x04'), ("binary", 'U'),
    ("include", '\x06'), ("exclude", '\x07'), ("exclude-dir", '\x08')]

def kindOf (usual : Kind) (o : Options) : Kind × Bool :=
  let kinds := o.letters.filterMap fun l => match l.1 with
    | 'E' => some Kind.extended
    | 'F' => some .fixed
    | 'P' => some .lookaround
    | 'G' => some .basic
    | _ => none
  let named := if usual == .basic then kinds else usual :: kinds
  let kind := named.getLastD usual
  (kind, named.any (· != kind))

inductive Defect where
  | message (text : String)
  | misused (text : String)
  | help

def mostOf (o : Options) : Except Defect (Option Nat) :=
  match o.last? 'm' with
  | none => .ok none
  | some text =>
    match Size.integer Number.least Number.greatest text with
    | .ok n => .ok (if n < 0 then none else some n.toNat)
    | .error .malformed => .error (.message "invalid max count")
    | .error _ => .ok none

def aroundOf (o : Options) (letter : Char) : Except Defect (Option Nat) := do
  let count (text : Bytes) : Except Defect Nat :=
    match Size.ofText "" text with
    | .ok n => .ok n
    | .error .malformed => .error (.message (shown text ++ ": invalid context length argument"))
    | .error _ => .ok Size.greatest
  let own ← (o.last? letter).mapM count
  let both ← (o.last? 'C').mapM count
  return own.or both

def isLast (o : Options) (letter : Char) (others : List Char) : Bool :=
  match o.letters.reverse.find? fun l => others.contains l.1 with
  | some (last, _) => last == letter
  | none => false

def planOf (usual : Kind) (o : Options) (patterns : List Bytes) : Except Defect Plan := do
  let color := (o.last? '\x03').map shown
  let colors := ["always", "yes", "force"]
  let others := ["never", "no", "none", "auto", "tty", "if-tty", ""]
  if (color.map fun c => !(colors ++ others).contains c).getD false then throw .help
  let directories := ["read", "recurse", "skip"]
  match (o.last? 'd').map shown with
  | some d =>
    if !directories.contains d then
      throw (.misused ("invalid argument " ++ inRoundQuotes d.toList ++
        " for \xe2\x80\x98--directories\xe2\x80\x99\nValid arguments are:" ++
        String.join (directories.map fun n => "\n  - \xe2\x80\x98" ++ n ++ "\xe2\x80\x99")))
  | none => pure ()
  let binary := (o.last? '\x04').map shown
  let kinds := ["binary", "text", "without-match"]
  if (binary.map fun t => !kinds.contains t).getD false then
    throw (.message "unknown binary-files type")
  let before ← aroundOf o 'B'
  let after ← aroundOf o 'A'
  let most ← mostOf o
  let ignoresCase := !isLast o '\x0b' ['i', 'y', '\x0b'] && (o.has 'i' || o.has 'y')
  let extent : Extent := if o.has 'x' then .line else if o.has 'w' then .word else .anywhere
  let (kind, conflicts) := kindOf usual o
  if conflicts then throw (.message "conflicting matchers specified")
  let matcher ← match matcherOf kind extent ignoresCase patterns with
    | .ok m => pure m
    | .error message => throw (.message message)
  return {
    matcher
    ignoresCase
    inverted := o.has 'v'
    most
    before
    after
    ending := if o.has 'z' then '\x00' else '\n'
    colored := colors.any fun c => color == some c
    separator :=
      if isLast o '\x02' ['\x02', '\x05'] then none else some ((o.last? '\x05').getD ['-', '-'])
    o := match binary with
      | some "text" => { o with letters := ('a', []) :: o.letters }
      | some "without-match" => { o with letters := ('I', []) :: o.letters }
      | _ => o }

def Plan.run (p : Plan) (paths : List Bytes) : Run Nat := do
  let o := p.o
  let deep := o.has 'r' || o.has 'R' || o.last? 'd' == some "recurse".toList
  let operands := if paths.isEmpty then if deep then [[]] else [['-']] else paths
  let lists ← operands.mapM (filesOf deep)
  let single := match operands, lists with
    | [a], [files] => files == [a]
    | _, _ => false
  let titled := if o.has 'h' || o.has 'H' then isLast o 'H' ['h', 'H'] else !single
  if p.most == some 0 then return 1
  let (found, failed) ← p.files titled (lists.flatten.filter (isIncluded o)) false (false, false)
  return if failed then 2 else if found then 0 else 1

end Grep

open Grep in
def grep (usual : Kind) (arguments : List Bytes) : Run Nat := do
  let letters := "EFGe:f:iywxvclLm:oqsbHhnzA:B:C:arRuUPTZId:D:" ++
    "\x01:\x02\x03::\x04:\x05:\x06:\x07:\x08:\x0b"
  let size := total (arguments.map (·.length + 1))
  /- A number on its own is a context. -/
  let arguments := arguments.map fun a => match a with
    | '-' :: c :: rest =>
      if c.isDigit && rest.all Char.isDigit then '-' :: 'C' :: c :: rest else a
    | _ => a
  match readOptions letters longNames false (size + 2 * arguments.length + 1) arguments {} with
  | .error .help => withOptions "" [] true 2 ["--help".toList] fun _ => return 0
  | .error e =>
    complain e.message
    usage
  | .ok o =>
    match ← patternsOf o with
    | none => usage
    | some (patterns, rest) =>
      match planOf usual o patterns with
      | .ok plan => plan.run rest
      | .error (.message text) => refuse 2 text
      | .error (.misused text) =>
        complain text
        usage
      | .error .help => withOptions "" [] true 2 ["--help".toList] fun _ => return 0

end Gesture.Shell.Program
