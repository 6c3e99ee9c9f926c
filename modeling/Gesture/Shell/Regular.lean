import Gesture.Shell.Wide
import Gesture.Text.Utf8

namespace Gesture.Shell.Regular

inductive Atom where
  | char (c : Char)
  | any
  | set (negated : Bool) (members : List Glob.Member)
  deriving DecidableEq, Repr

inductive Anchor where
  | lineStart
  | lineEnd
  | wordStart
  | wordEnd
  | boundary
  | noBoundary
  | afterWord
  | beforeWord
  deriving DecidableEq, Repr

inductive Expr where
  | empty
  | atom (a : Atom)
  | anchor (a : Anchor)
  | sequence (first second : Expr)
  | either (first second : Expr)
  | repeated (body : Expr) (least : Nat) (most : Option Nat)
  | group (number : Nat) (body : Expr)
  | reference (number : Nat)
  deriving DecidableEq, Repr

inductive Error where
  | bracket
  | parenthesis
  | closing
  | backslash
  | brace
  | openBrace
  | range
  | reference
  | className
  | preceding
  | collation
  | tooBig
  | operand
  | anchor
  | invalid
  deriving DecidableEq, Repr

def Error.message : Error → String
  | .bracket => "Unmatched [, [^, [:, [., or [="
  | .parenthesis => "Unmatched ( or \\("
  | .closing => "Unmatched ) or \\)"
  | .backslash => "Trailing backslash"
  | .brace => "Invalid content of \\\x7b\\\x7d"
  | .openBrace => "Unmatched \\\x7b"
  | .range => "Invalid range end"
  | .reference => "Invalid back reference"
  | .className => "Invalid character class name"
  | .preceding => "Invalid preceding regular expression"
  | .collation => "Invalid collation character"
  | .tooBig => "Regular expression too big"
  | .operand => "missing operand"
  | .anchor => "syntax error ^* or ^+"
  | .invalid => "Invalid regular expression"

inductive Lead where
  | literal
  | skipped
  | wrong
  deriving DecidableEq, Repr

structure Style where
  extended : Bool
  escapes : Bool := false
  lead : Lead := .literal
  looseBraces : Bool := false
  looseClosing : Bool := false
  single : Bool := false
  filled : Bool := false
  deriving DecidableEq, Repr

namespace Style

def basic : Style := { extended := false }

def search (extended : Bool) : Style :=
  { extended
    lead := if extended then .skipped else .literal
    looseBraces := extended
    looseClosing := extended }

def editor (extended : Bool) : Style :=
  { extended, lead := if extended then .wrong else .literal, single := !extended }

def escaping : Style :=
  { extended := true, escapes := true, lead := .wrong, looseClosing := true, filled := true }

end Style

def upTo (mark : Char) : List Char → Option (List Char × List Char)
  | c :: ']' :: rest =>
    if c == mark then some ([], rest) else (upTo mark (']' :: rest)).map fun p => (c :: p.1, p.2)
  | c :: rest => (upTo mark rest).map fun p => (c :: p.1, p.2)
  | [] => none

def control? : Char → Option Char
  | 'n' => some '\n'
  | 't' => some '\t'
  | 'f' => some '\x0c'
  | 'v' => some '\x0b'
  | 'a' => some '\x07'
  | 'r' => some '\r'
  | _ => none

def rangeEnd (style : Style) (text : List Char) : Except Error (Char × List Char) :=
  match text with
  | '[' :: '.' :: rest =>
    match upTo '.' rest with
    | some ([c], after) => .ok (c, after)
    | some _ => .error .collation
    | none => .error .bracket
  | '\\' :: c :: rest =>
    if style.escapes then .ok ((control? c).getD c, rest) else .ok ('\\', c :: rest)
  | c :: rest => .ok (c, rest)
  | [] => .error .bracket

def members (style : Style) : Nat → Bool → List Char → Except Error (List Glob.Member × List Char)
  | 0, _, _ => .error .bracket
  | _ + 1, first, [] => .error (if first then .invalid else .bracket)
  | limit + 1, first, c :: rest => do
    if c == ']' && !first then return ([], rest)
    match c, rest with
    | '[', ':' :: more =>
      match upTo ':' more with
      | none => throw .bracket
      | some (name, after) =>
        let name := String.ofList name
        if !Glob.classNames.contains name then throw .className
        let (others, after) ← members style limit false after
        return (.named name :: others, after)
    | '[', '=' :: more =>
      match upTo '=' more with
      | some ([d], after) =>
        let (others, after) ← members style limit false after
        return (.range d d :: others, after)
      | some _ => throw .collation
      | none => throw .bracket
    | _, _ =>
      let (low, after) ← rangeEnd style (c :: rest)
      match after with
      | '-' :: next :: more =>
        if next == ']' then
          let (others, after) ← members style limit false after
          return (.range low low :: others, after)
        else
          let (high, after) ← rangeEnd style (next :: more)
          if high < low then throw .range
          let (others, after) ← members style limit false after
          return (.range low high :: others, after)
      | _ =>
        let (others, after) ← members style limit false after
        return (.range low low :: others, after)

def set (style : Style) (text : List Char) : Except Error (Atom × List Char) := do
  let (negated, body) : Bool × List Char := match text with
    | '^' :: rest => (true, rest)
    | _ => (false, text)
  let (found, rest) ← members style (body.length + 1) true body
  return (.set negated found, rest)

def braced? (extended : Bool) : List Char → Option (List Char × List Char)
  | '\x7d' :: rest => if extended then some ([], rest) else
      (braced? extended rest).map fun p => ('\x7d' :: p.1, p.2)
  | '\\' :: '\x7d' :: rest => if extended then
      (braced? extended rest).map fun p => ('\\' :: '\x7d' :: p.1, p.2)
    else some ([], rest)
  | c :: rest => (braced? extended rest).map fun p => (c :: p.1, p.2)
  | [] => none

/-- How often something is repeated, after the opening brace: the bounds, and what follows the
    closing one. -/
def bounds (extended : Bool) (text : List Char) : Except Error ((Nat × Option Nat) × List Char) := do
  match braced? extended text with
  | none => throw .openBrace
  | some (inside, after) =>
    let low := inside.takeWhile Char.isDigit
    let value (digits : List Char) : Nat := digits.foldl (fun n c => 10 * n + (c.toNat - 0x30)) 0
    let high? : Option (Option Nat) := match inside.drop low.length with
      | [] => if low.isEmpty then none else some (some (value low))
      | ',' :: digits =>
        if digits.isEmpty then some none
        else if digits.all Char.isDigit then some (some (value digits))
        else none
      | _ => none
    match high? with
    | none => throw .brace
    | some high =>
      let least := value low
      if (high.map (decide <| · < least)).getD false then throw .brace
      if 32767 < high.getD least then throw .tooBig
      return ((least, high), after)

inductive Token where
  | atom (a : Atom)
  | anchor (a : Anchor)
  | open
  | close
  | either
  | repeat (least : Nat) (most : Option Nat)
  | reference (number : Nat)
  deriving DecidableEq, Repr

def wordMembers : List Glob.Member :=
  [.named "alnum", .range '_' '_']

def escaped? : Char → Option Token
  | 'w' => some (.atom (.set false wordMembers))
  | 'W' => some (.atom (.set true wordMembers))
  | 's' => some (.atom (.set false [.named "space"]))
  | 'S' => some (.atom (.set true [.named "space"]))
  | '<' => some (.anchor .wordStart)
  | '>' => some (.anchor .wordEnd)
  | 'b' => some (.anchor .boundary)
  | 'B' => some (.anchor .noBoundary)
  | '\x60' => some (.anchor .lineStart)
  | '\'' => some (.anchor .lineEnd)
  | _ => none

def Token.ends : Token → Bool
  | .atom _ | .close | .reference _ | .repeat .. => true
  | _ => false

/-- The sign that a character is without a backslash in extended expressions, and with one in basic
    ones. -/
def signOf? (c : Char) : Option Token :=
  match c with
  | '(' => some .open
  | ')' => some .close
  | '|' => some .either
  | '+' => some (.repeat 1 none)
  | '?' => some (.repeat 0 (some 1))
  | _ => none

def endsPart : List Char → Bool
  | [] => true
  | '\\' :: ')' :: _ | '\\' :: '|' :: _ => true
  | _ => false

def tokens (style : Style) : Nat → Option Token → List Char → Except Error (List Token)
  | 0, _, _ => return []
  | _ + 1, _, [] => return []
  | limit + 1, last, c :: rest => do
    let next (t : Token) (rest : List Char) : Except Error (List Token) := do
      return t :: (← tokens style limit (some t) rest)
    let plain (c : Char) (rest : List Char) : Except Error (List Token) := next (.atom (.char c)) rest
    let follows := (last.map Token.ends).getD false
    let bare (c : Char) (rest : List Char) : Except Error (List Token) :=
      match style.lead with
      | .literal => plain c rest
      | .skipped => tokens style limit last rest
      | .wrong =>
        match style.filled, last with
        | true, some (.anchor .lineStart) => throw .anchor
        | true, some (.anchor .lineEnd) => tokens style limit last rest
        | _, _ => throw .preceding
    let atStart := match last with
      | none | some .open | some .either => true
      | _ => false
    match c with
    | '\\' =>
      match rest with
      | [] => throw .backslash
      | d :: rest =>
        if d.isDigit && d != '0' then next (.reference (d.toNat - 0x30)) rest
        else
          match escaped? d with
          | some t => if style.escapes then plain ((control? d).getD d) rest else next t rest
          | none =>
            if style.extended then plain (((if style.escapes then control? d else none)).getD d) rest
            else if d == '\x7b' then
              if !follows then if style.single then throw .preceding else plain d rest
              else
                let ((least, most), after) ← bounds false rest
                next (.repeat least most) after
            else
              match signOf? d with
              | some (.repeat least most) =>
                if follows then next (.repeat least most) rest else plain d rest
              | some t => next t rest
              | none => plain (if d == 'n' then '\n' else d) rest
    | '[' =>
      let (a, after) ← set style rest
      next (.atom a) after
    | '.' => next (.atom .any) rest
    | '*' =>
      let isRepeated := match last with
        | some (.repeat ..) => true
        | _ => false
      if follows then
        if style.single && isRepeated then throw .preceding else next (.repeat 0 none) rest
      else bare '*' rest
    | '^' =>
      if style.extended || atStart then next (.anchor .lineStart) rest else plain '^' rest
    | '$' =>
      if style.extended || endsPart rest then next (.anchor .lineEnd) rest else plain '$' rest
    | '\x7b' =>
      if !style.extended || style.escapes then plain c rest
      else if !follows then bare c rest
      else
        match bounds true rest with
        | .ok ((least, most), after) => next (.repeat least most) after
        | .error .openBrace => if style.looseBraces then plain c rest else throw .openBrace
        | .error .brace =>
          /- Bounds in the wrong order are never plain. -/
          let inside := rest.takeWhile (· != '\x7d')
          let isOrdered := inside.all fun c => c.isDigit || c == ','
          if style.looseBraces && !isOrdered then plain c rest else throw .brace
        | .error e => throw e
    | c =>
      if style.extended then
        match signOf? c with
        | some (.repeat least most) =>
          if follows then next (.repeat least most) rest else bare c rest
        | some t => next t rest
        | none => plain c rest
      else plain c rest

structure Frame where
  choices : Option Expr
  parts : List Expr
  number : Nat

def Frame.choice (f : Frame) : Expr :=
  let body := f.parts.foldl
    (fun after part =>
      match after with
      | .empty => part
      | after => .sequence part after)
    .empty
  match f.choices with
  | some before => .either before body
  | none => body

structure Build where
  frame : Frame := ⟨none, [], 0⟩
  outer : List Frame := []
  groups : Nat := 0

def Build.step (style : Style) (b : Build) (t : Token) : Except Error Build := do
  let check : Except Error Unit :=
    if style.filled && b.frame.parts.isEmpty then throw .operand else pure ()
  let add (e : Expr) : Build := { b with frame := { b.frame with parts := e :: b.frame.parts } }
  match t with
  | .atom a => return add (.atom a)
  | .anchor a => return add (.anchor a)
  | .reference n => if b.groups < n then throw .reference else return add (.reference n)
  | .repeat least most =>
    match b.frame.parts with
    | e :: before =>
      return { b with frame := { b.frame with parts := .repeated e least most :: before } }
    | [] => throw .preceding
  | .either =>
    check
    return { b with frame := { b.frame with choices := some b.frame.choice, parts := [] } }
  | .open =>
    return { b with
      frame := ⟨none, [], b.groups + 1⟩
      outer := b.frame :: b.outer
      groups := b.groups + 1 }
  | .close =>
    match b.outer with
    | f :: outer =>
      check
      let group := Expr.group b.frame.number b.frame.choice
      return { b with frame := { f with parts := group :: f.parts }, outer }
    | [] => if style.looseClosing then return add (.atom (.char ')')) else throw .closing

structure Compiled where
  expr : Expr
  groups : Nat

def compile (style : Style) (text : List Char) : Except Error Compiled := do
  let ts ← tokens style text.length none text
  let b ← ts.foldlM (Build.step style) {}
  if !b.outer.isEmpty then throw .parenthesis
  if style.filled && b.frame.parts.isEmpty && b.frame.choices.isSome then throw .operand
  return ⟨b.frame.choice, b.groups⟩

structure State where
  place : Nat
  groups : List (Nat × Nat × Nat) := []
  deriving DecidableEq, Repr

structure Best where
  found : Option State := none
  steps : Nat
  deriving DecidableEq, Repr

structure Subject where
  text : Array Char
  ignoresCase : Bool := false
  startsLine : Bool := true
  multiline : Bool := false
  isWide : Bool := false

def strayStart : Nat := 0x10FF00

def isStray (c : Char) : Bool :=
  decide (strayStart ≤ c.toNat)

def Subject.agree (s : Subject) (a b : Char) : Bool :=
  a == b || (s.ignoresCase && if s.isWide then Wide.same a b else a.toLower == b.toLower)

def Subject.has (s : Subject) (m : Glob.Member) (c : Char) : Bool :=
  match m with
  | .range .. => m.has c
  | .named name => if s.isWide then Wide.isIn name c else m.has c

def Atom.accepts (a : Atom) (s : Subject) (c : Char) : Bool :=
  match a with
  | .any => !isStray c
  | .char d => s.agree c d
  | .set negated members =>
    let has := members.any fun m =>
      s.has m c ||
        (s.ignoresCase &&
          if s.isWide then s.has m (Wide.lower c) || s.has m (Wide.upper c)
          else m.has c.toLower || m.has c.toUpper)
    has != negated && !(negated && isStray c)

def isWordAt (s : Subject) (place : Nat) : Bool :=
  (s.text[place]?.map fun c =>
    if s.isWide then Wide.isWord c else c.isAlphanum || c == '_').getD false

def Anchor.holds (a : Anchor) (s : Subject) (place : Nat) : Bool :=
  let before := place != 0 && isWordAt s (place - 1)
  let after := isWordAt s place
  match a with
  | .lineStart =>
    if place = 0 then s.startsLine else s.multiline && s.text[place - 1]? == some '\n'
  | .lineEnd => place == s.text.size || (s.multiline && s.text[place]? == some '\n')
  | .wordStart => !before && after
  | .wordEnd => before && !after
  | .boundary => before != after
  | .noBoundary => before == after
  | .afterWord => !before
  | .beforeWord => !after

abbrev Follow := State → Best → Best

def Best.isFinal (b : Best) (s : Subject) : Bool :=
  b.steps == 0 || (b.found.map (·.place == s.text.size)).getD false

def rounds (round : State → Follow → Best → Best) (subject : Subject) (k : Follow) :
    Nat → Nat → Option Nat → State → Best → Best
  | 0, _, _, s, best => k s best
  | limit + 1, least, most, s, best =>
    if best.isFinal subject then best
    else
      let tried :=
        if most == some 0 then best
        else
          round s
            (fun after best =>
              if after.place = s.place && least = 0 then best
              else rounds round subject k limit (least - 1) (most.map (· - 1)) after best)
            best
      if least = 0 then k s tried else tried

def repeats (subject : Subject) (first last place : Nat) : Bool :=
  (List.range (last - first)).all fun i =>
    match subject.text[first + i]?, subject.text[place + i]? with
    | some a, some b => subject.agree a b
    | _, _ => false

def walk (subject : Subject) : Expr → State → Follow → Best → Best
  | .empty, s, k, best => k s best
  | .atom a, s, k, best =>
    if best.isFinal subject then best
    else
      let best := { best with steps := best.steps - 1 }
      match subject.text[s.place]? with
      | some c =>
        if a.accepts subject c then k { s with place := s.place + 1 } best else best
      | none => best
  | .anchor a, s, k, best => if a.holds subject s.place then k s best else best
  | .sequence first second, s, k, best =>
    walk subject first s (fun s best => walk subject second s k best) best
  | .either first second, s, k, best =>
    let best := walk subject first s k best
    if best.isFinal subject then best else walk subject second s k best
  | .repeated body least most, s, k, best =>
    rounds (walk subject body) subject k (subject.text.size - s.place + least + 1) least most s best
  | .group number body, s, k, best =>
    walk subject body s
      (fun after best => k { after with groups := (number, s.place, after.place) :: after.groups } best)
      best
  | .reference number, s, k, best =>
    match s.groups.lookup number with
    | some (first, last) =>
      if repeats subject first last s.place then k { s with place := s.place + (last - first) } best
      else best
    | none => best

def keepLonger : Follow := fun s best =>
  match best.found with
  | some old => if old.place < s.place then { best with found := some s } else best
  | none => { best with found := some s }

def stepLimit : Nat := 1000000

def matchAt? (e : Expr) (subject : Subject) (place : Nat) : Option State :=
  (walk subject e ⟨place, []⟩ keepLonger ⟨none, stepLimit⟩).found

structure Found where
  first : Nat
  last : Nat
  groups : List (Nat × Nat × Nat)

def searchFrom? (e : Expr) (subject : Subject) (place : Nat) : Nat → Option Found
  | 0 => none
  | count + 1 =>
    match matchAt? e subject place with
    | some s => some ⟨place, s.place, s.groups⟩
    | none => searchFrom? e subject (place + 1) count

def Compiled.search? (c : Compiled) (subject : Subject) (place : Nat) : Option Found :=
  searchFrom? c.expr subject place (subject.text.size + 1 - place)

def strayByte (c : Char) : Char :=
  Char.ofNat (strayStart + c.toNat)

def following (c : Char) : Nat :=
  let n := c.toNat
  if 0xC2 ≤ n && n < 0xE0 then 1 else if 0xE0 ≤ n && n < 0xF0 then 2
  else if 0xF0 ≤ n && n < 0xF5 then 3 else 0

def wideChar (c : Char) (rest : Bytes) : Char × Bytes :=
  let count := following c
  let tail := rest.take count
  let isPart := tail.length == count && tail.all fun d => 0x80 ≤ d.toNat && d.toNat < 0xC0
  if c.toNat < 0x80 then (c, rest)
  else if count = 0 || !isPart then (strayByte c, rest)
  else
    let lead := c.toNat % Nat.pow 2 (6 - count)
    let code := tail.foldl (fun n d => 64 * n + d.toNat % 64) lead
    let least := if count = 1 then 0x80 else if count = 2 then 0x800 else 0x10000
    if code < least || (0xD800 ≤ code && code < 0xE000) || 0x110000 ≤ code then (strayByte c, rest)
    else (Char.ofNat code, rest.drop count)

def wideFrom : Nat → Bytes → List Char
  | 0, _ => []
  | _ + 1, [] => []
  | limit + 1, c :: rest =>
    let (wide, after) := wideChar c rest
    wide :: wideFrom limit after

def wide (bytes : Bytes) : List Char :=
  if bytes.all (·.toNat < 0x80) then bytes else wideFrom bytes.length bytes

def narrow (text : List Char) : Bytes :=
  text.flatMap fun c =>
    if c.toNat < 0x80 then [c]
    else if isStray c then [Char.ofNat (c.toNat - strayStart)]
    else (Text.Utf8.encode [c]).map fun b => Char.ofNat b.toNat

end Gesture.Shell.Regular
