import Gesture.Shell.Program.Text

namespace Gesture.Shell.Program.Sed

structure Pattern where
  compiled : Option Regular.Compiled
  bytewise : Bool := false
  ignoresCase : Bool := false
  multiline : Bool := false

inductive Address where
  | line (n : Nat)
  | every (first step : Nat)
  | last
  | matching (p : Pattern)

inductive Ending where
  | address (a : Address)
  | after (count : Nat)
  | multiple (n : Nat)

inductive Casing where
  | upper
  | lower
  | upperNext
  | lowerNext
  | plain
  deriving DecidableEq, Repr

inductive Piece where
  | text (t : List Char)
  | group (n : Nat)
  | casing (c : Casing)
  deriving DecidableEq, Repr

structure Substitution where
  pattern : Pattern
  replacement : List Piece
  all : Bool := false
  nth : Nat := 1
  prints : Bool := false
  evaluated : Bool := false
  printsFirst : Bool := false
  file : Option Bytes := none

inductive Action where
  | block (ending : Nat)
  | nothing
  | number
  | append (text : Bytes)
  | insert (text : Bytes)
  | change (text : Bytes)
  | jump (when : Option Bool) (label : Bytes)
  | delete
  | deleteFirst
  | print
  | printFirst
  | hold
  | holdMore
  | get
  | getMore
  | exchange
  | next
  | nextMore
  | quit (status : Nat) (silent : Bool)
  | readFile (name : Bytes)
  | readLine (name : Bytes)
  | write (name : Bytes)
  | writeFirst (name : Bytes)
  | substitute (s : Substitution)
  | translate (pairs : List (Char × Char))
  | list (width : Option Nat)
  | clear
  | fileName
  | evaluate (command : Bytes)

structure Command where
  first : Option Address
  ending : Option Ending
  negated : Bool
  action : Action

structure Script where
  commands : Array Command
  labels : List (Bytes × Nat)
  quiet : Bool

structure Failure where
  message : String
  place : Option Nat

structure Reader where
  rest : Bytes
  used : Nat := 0
  extended : Bool
  commands : Array Command := #[]
  labels : List (Bytes × Nat) := []
  blocks : List Nat := []
  quiet : Bool := false

abbrev Parse := StateT Reader (Except Failure)

def fail {α : Type} (message : String) : Parse α := do
  throw ⟨message, some (← get).used⟩

def next? : Parse (Option Char) := do
  let r ← get
  match r.rest with
  | [] => return none
  | c :: rest =>
    set { r with rest, used := r.used + 1 }
    return some c

def putBack (c : Option Char) : Parse Unit :=
  match c with
  | some c => modify fun r => { r with rest := c :: r.rest, used := r.used - 1 }
  | none => pure ()

def peek? : Parse (Option Char) := do
  return (← get).rest.head?

def takeWhile (test : Char → Bool) : Parse Bytes := do
  let r ← get
  let found := r.rest.takeWhile test
  set { r with rest := r.rest.drop found.length, used := r.used + found.length }
  return found

def isBlank (c : Char) : Bool :=
  c == ' ' || c == '\t'

def nextFilled? : Parse (Option Char) := do
  let _ ← takeWhile isBlank
  next?

def readNumber (first : Char) : Parse Nat := do
  let more ← takeWhile Char.isDigit
  return Text.decimalValue (first :: more)

def endCommand : Parse Unit := do
  match ← nextFilled? with
  | none | some '\n' | some ';' => pure ()
  | some c =>
    if c == '\x7d' || c == '#' then putBack (some c) else fail "extra characters after command"

inductive Bracket where
  | outside
  | opened
  | negated
  | inside
  | opening (mark : Char)
  | named (mark : Char) (marked : Bool)
  deriving DecidableEq, Repr

def Bracket.within (c : Char) (following : Option Char) : Bracket :=
  match c, following with
  | '[', some m => if m == ':' || m == '.' || m == '=' then .opening m else .inside
  | _, _ => .inside

def Bracket.after (b : Bracket) (c : Char) (following : Option Char) : Bracket :=
  match b with
  | .outside => if c == '[' then .opened else .outside
  | .opened => if c == '^' then .negated else .within c following
  | .negated => .within c following
  | .inside => if c == ']' then .outside else .within c following
  | .opening mark => .named mark false
  | .named mark marked => if marked && c == ']' then .inside else .named mark (c == mark)

def between (delimiter : Char) (isPattern : Bool) :
    Nat → Bracket → Bytes → Parse (Option Bytes)
  | 0, _, _ => return none
  | limit + 1, bracket, before => do
    match ← next? with
    | none => return none
    | some c =>
      if c == delimiter && bracket == .outside then return some before.reverse
      else if c == '\n' then
        putBack (some c)
        return none
      else if c == '\\' then
        match ← next? with
        | none => return none
        | some d =>
          if bracket != .outside then
            if d == 'n' then between delimiter isPattern limit .inside ('\n' :: before)
            else
              putBack (some d)
              between delimiter isPattern limit .inside ('\\' :: before)
          else if d == delimiter then between delimiter isPattern limit bracket (d :: before)
          else if d == 'n' && isPattern then
            between delimiter isPattern limit bracket ('\n' :: before)
          else between delimiter isPattern limit bracket (d :: '\\' :: before)
      else
        let following ← peek?
        let bracket := if isPattern then bracket.after c following else .outside
        between delimiter isPattern limit bracket (c :: before)

def escapedCode (base count : Nat) (text : Bytes) : Option (Char × Bytes) :=
  let isDigit (c : Char) : Bool := ((Text.hexValue? c).map (decide <| · < base)).getD false
  let digits := (text.take count).takeWhile isDigit
  if digits.isEmpty then none
  else
    let n := digits.foldl (fun n c => base * n + (Text.hexValue? c).getD 0) 0
    some (Char.ofNat (n % 256), text.drop digits.length)

def control? : Bytes → Option (Char × Bytes)
  | 'a' :: rest => some ('\x07', rest)
  | 'f' :: rest => some ('\x0c', rest)
  | 'r' :: rest => some ('\r', rest)
  | 't' :: rest => some ('\t', rest)
  | 'v' :: rest => some ('\x0b', rest)
  | 'c' :: c :: rest =>
    let n := c.toUpper.toNat
    some (Char.ofNat (if n < 64 then n + 64 else n - 64), rest)
  | 'd' :: rest => escapedCode 10 3 rest
  | 'o' :: rest => escapedCode 8 3 rest
  | 'x' :: rest => escapedCode 16 2 rest
  | _ => none

/-- A pattern of at most `limit` characters with those escapes replaced. What has a meaning in
    patterns only stands for itself then. -/
def withControls (special : List Char) : Nat → Bytes → Bytes
  | 0, text => text
  | _ + 1, [] => []
  | limit + 1, '\\' :: rest =>
    match control? rest with
    | some (c, after) =>
      if special.contains c then '\\' :: c :: withControls special limit after
      else c :: withControls special limit after
    | none =>
      match rest with
      | c :: after => '\\' :: c :: withControls special limit after
      | [] => ['\\']
  | limit + 1, c :: rest => c :: withControls special limit rest

/-- Whether a pattern says nothing of characters other than by their bytes: no dot, no set other than
    one that lists some, and nothing on words. -/
def isBytewise : Nat → Bytes → Bool
  | 0, _ | _ + 1, [] => true
  | _ + 1, '[' :: '^' :: _ => false
  | limit + 1, '[' :: ']' :: rest => isBytewise limit ('[' :: 'x' :: rest)
  | limit + 1, '[' :: rest =>
    let listed := rest.takeWhile (· != ']')
    listed.all (fun c => c != '-' && c != '[' && c.toNat < 0x80) &&
      isBytewise limit (rest.drop listed.length)
  | limit + 1, '\\' :: c :: rest => !"wWsSbB<>".toList.contains c && isBytewise limit rest
  | limit + 1, c :: rest => c != '.' && c.toNat < 0x80 && isBytewise limit rest

def patternOf (text : Bytes) (ignoresCase multiline : Bool) : Parse Pattern := do
  if text.isEmpty then
    if ignoresCase || multiline then fail "cannot specify modifiers on empty regexp"
    else return ⟨none, false, false, false⟩
  let special := "*.[]^$\\/+?|()\x7b\x7d".toList
  let plain := withControls special text.length text
  match Regular.compile (.editor (← get).extended) (Regular.wide plain) with
  | .ok compiled => return ⟨some compiled, isBytewise plain.length plain, ignoresCase, multiline⟩
  | .error e => fail e.message

def addressFlags : Nat → Bool × Bool → Parse (Bool × Bool)
  | 0, flags => return flags
  | limit + 1, (ignoresCase, multiline) => do
    match ← nextFilled? with
    | some 'I' => addressFlags limit (true, multiline)
    | some 'M' => addressFlags limit (ignoresCase, true)
    | c =>
      putBack c
      return (ignoresCase, multiline)

def patternAddress (delimiter : Char) : Parse Address := do
  let size := (← get).rest.length + 1
  match ← between delimiter true size .outside [] with
  | none => fail "unterminated address regex"
  | some text =>
    let (ignoresCase, multiline) ← addressFlags size (false, false)
    return .matching (← patternOf text ignoresCase multiline)

def address? (c : Char) : Parse (Option Address) := do
  if c == '/' then return some (← patternAddress '/')
  else if c == '\\' then
    match ← next? with
    | some d => return some (← patternAddress d)
    | none => fail "unexpected `,'"
  else if c == '$' then return some .last
  else if c.isDigit then
    let n ← readNumber c
    match ← nextFilled? with
    | some '~' =>
      match ← nextFilled? with
      | some d =>
        if d.isDigit then
          let step ← readNumber d
          return some (if step = 0 then .line n else .every n step)
        else
          putBack (some d)
          return some (.line n)
      | none => return some (.line n)
    | d =>
      putBack d
      return some (.line n)
  else return none

def ending : Parse Ending := do
  let wrong : Parse Ending := fail "unexpected `,'"
  match ← nextFilled? with
  | none => wrong
  | some c =>
    if c == '+' || c == '~' then
      match ← nextFilled? with
      | some d =>
        if d.isDigit then
          let n ← readNumber d
          return if c == '+' then .after n else .multiple n
        else wrong
      | none => wrong
    else
      match ← address? c with
      | some a => return .address a
      | none => wrong

def addedText : Nat → Bytes → Bytes
  | 0, text => text
  | _ + 1, [] => []
  | limit + 1, '\\' :: rest =>
    match control? rest with
    | some (c, after) => c :: addedText limit after
    | none =>
      match rest with
      | 'n' :: after => '\n' :: addedText limit after
      | c :: after => c :: addedText limit after
      | [] => []
  | limit + 1, c :: rest => c :: addedText limit rest

def textLines : Nat → Bytes → Parse Bytes
  | 0, before => return before.reverse
  | limit + 1, before => do
    match ← next? with
    | none | some '\n' => return before.reverse
    | some '\\' =>
      match ← next? with
      | none => return before.reverse
      | some c => textLines limit (c :: '\\' :: before)
    | some c => textLines limit (c :: before)

def readText : Parse Bytes := do
  let size := (← get).rest.length + 1
  match ← nextFilled? with
  | none => fail "expected \\ after `a', `c' or `i'"
  | some '\\' =>
    match ← next? with
    | none => return []
    | some '\n' => pure ()
    | c => putBack c
  | c => putBack c
  if (← peek?).isNone then return []
  let first ← next?
  /- A backslash at the very start only protects what follows. -/
  let plain : Bytes ← match first with
    | some '\\' => do
      let c ← next?
      pure c.toList
    | c => do
      putBack c
      pure []
  let raw ← textLines size []
  return plain ++ addedText raw.length raw ++ ['\n']

def readFileName : Parse Bytes := do
  let _ ← takeWhile isBlank
  let name ← takeWhile (· != '\n')
  if name.isEmpty then fail "missing filename in r/R/w/W commands"
  else
    let _ ← next?
    return name

def readLabel : Parse Bytes := do
  let _ ← takeWhile isBlank
  takeWhile fun c => !Number.isBlank c && c != ';' && c != '\x7d'

/-- The pieces of a replacement of at most `limit` characters; `plain` is text before, latest first. -/
def piecesOf : Nat → List Char → List Char → List Piece
  | 0, plain, _ => [.text plain.reverse]
  | _ + 1, plain, [] => [.text plain.reverse]
  | limit + 1, plain, '&' :: rest => .text plain.reverse :: .group 0 :: piecesOf limit [] rest
  | limit + 1, plain, '\\' :: rest =>
    let casing (c : Casing) (after : List Char) : List Piece :=
      .text plain.reverse :: .casing c :: piecesOf limit [] after
    match rest with
    | 'U' :: after => casing .upper after
    | 'L' :: after => casing .lower after
    | 'u' :: after => casing .upperNext after
    | 'l' :: after => casing .lowerNext after
    | 'E' :: after => casing .plain after
    | 'n' :: after => piecesOf limit ('\n' :: plain) after
    | c :: after =>
      if c.isDigit then
        .text plain.reverse :: .group (c.toNat - 0x30) :: piecesOf limit [] after
      else
        match control? rest with
        | some (d, after) => piecesOf limit (d :: plain) after
        | none => piecesOf limit (c :: plain) after
    | [] => [.text ('\\' :: plain).reverse]
  | limit + 1, plain, c :: rest => piecesOf limit (c :: plain) rest

structure Flags where
  ignoresCase : Bool := false
  multiline : Bool := false
  all : Bool := false
  prints : Bool := false
  evaluated : Bool := false
  printsFirst : Bool := false
  nth : Option Nat := none
  file : Option Bytes := none

def substitutionFlags : Nat → Flags → Parse Flags
  | 0, flags => return flags
  | limit + 1, flags => do
    match ← nextFilled? with
    | none | some '\n' | some ';' => return flags
    | some c =>
      match c with
      | 'i' | 'I' => substitutionFlags limit { flags with ignoresCase := true }
      | 'm' | 'M' => substitutionFlags limit { flags with multiline := true }
      | 'g' =>
        if flags.all then fail "multiple `g' options to `s' command"
        else substitutionFlags limit { flags with all := true }
      | 'p' =>
        if flags.prints || flags.printsFirst then fail "multiple `p' options to `s' command"
        else if flags.evaluated then substitutionFlags limit { flags with prints := true }
        else substitutionFlags limit { flags with printsFirst := true }
      | 'e' => substitutionFlags limit { flags with evaluated := true }
      | 'w' => return { flags with file := some (← readFileName) }
      | c =>
        if c.isDigit then
          if flags.nth.isSome then fail "multiple number options to `s' command"
          else
            let n ← readNumber c
            if n = 0 then fail "number option to `s' command may not be zero"
            else substitutionFlags limit { flags with nth := some n }
        else if c == '\x7d' || c == '#' then
          putBack (some c)
          return flags
        else fail "unknown option to `s'"

def readSubstitution : Parse Action := do
  let size := (← get).rest.length + 1
  let unterminated : Parse Action := fail "unterminated `s' command"
  match ← next? with
  | none => unterminated
  | some delimiter =>
    match ← between delimiter true size .outside [] with
    | none => unterminated
    | some pattern =>
      match ← between delimiter false size .outside [] with
      | none => unterminated
      | some replacement =>
        let flags ← substitutionFlags size {}
        let compiled ← patternOf pattern flags.ignoresCase flags.multiline
        let pieces := piecesOf replacement.length [] (Regular.wide replacement)
        let most := (pieces.map fun p => match p with
          | .group n => n
          | _ => 0).foldl max 0
        match compiled.compiled with
        | some c =>
          if c.groups < most then
            fail ("invalid reference \\" ++ toString most ++ " on `s' command's RHS")
        | none => pure ()
        return .substitute
          { pattern := compiled
            replacement := pieces
            all := flags.all
            nth := flags.nth.getD 1
            prints := flags.prints || flags.printsFirst && !flags.evaluated
            evaluated := flags.evaluated
            printsFirst := flags.printsFirst
            file := flags.file }

def translated : Nat → Bytes → List Char
  | 0, _ => []
  | _ + 1, [] => []
  | limit + 1, '\\' :: rest =>
    match control? rest, rest with
    | some (c, after), _ => c :: translated limit after
    | none, '\\' :: after => '\\' :: translated limit after
    | none, 'n' :: after => '\n' :: translated limit after
    | none, _ => '\\' :: translated limit rest
  | limit + 1, c :: rest => c :: translated limit rest

def readTranslation : Parse Action := do
  let size := (← get).rest.length + 1
  let unterminated : Parse Action := fail "unterminated `y' command"
  match ← next? with
  | none => unterminated
  | some delimiter =>
    match ← between delimiter false size .outside [] with
    | none => unterminated
    | some source =>
      match ← between delimiter false size .outside [] with
      | none => unterminated
      | some target =>
        let chars := translated source.length (Regular.wide source)
        let images := translated target.length (Regular.wide target)
        if chars.length ≠ images.length then
          fail "strings for `y' command are different lengths"
        else
          endCommand
          return .translate (chars.zip images)

def addCommand (c : Command) : Parse Unit :=
  modify fun r => { r with commands := r.commands.push c }

def optionalNumber? : Parse (Option Nat) := do
  match ← nextFilled? with
  | some c =>
    if c.isDigit then return some (← readNumber c)
    else
      putBack (some c)
      return none
  | none => return none

def actionOf (letter : Char) : Parse Action := do
  let plain (a : Action) : Parse Action := do
    endCommand
    return a
  match letter with
  | '=' => plain .number
  | 'a' => return .append (← readText)
  | 'i' => return .insert (← readText)
  | 'c' => return .change (← readText)
  | 'b' => return .jump none (← readLabel)
  | 't' => return .jump (some true) (← readLabel)
  | 'T' => return .jump (some false) (← readLabel)
  | 'd' => plain .delete
  | 'D' => plain .deleteFirst
  | 'p' => plain .print
  | 'P' => plain .printFirst
  | 'h' => plain .hold
  | 'H' => plain .holdMore
  | 'g' => plain .get
  | 'G' => plain .getMore
  | 'x' => plain .exchange
  | 'n' => plain .next
  | 'N' => plain .nextMore
  | 'q' | 'Q' =>
    let status ← optionalNumber?
    plain (.quit (status.getD 0) (letter == 'Q'))
  | 'r' => return .readFile (← readFileName)
  | 'R' => return .readLine (← readFileName)
  | 'w' => return .write (← readFileName)
  | 'W' => return .writeFirst (← readFileName)
  | 's' => readSubstitution
  | 'y' => readTranslation
  | 'l' =>
    let width ← optionalNumber?
    plain (.list width)
  | 'e' =>
    match ← nextFilled? with
    | none | some '\n' => return .evaluate []
    | c =>
      putBack c
      return .evaluate (← readText)
  | 'z' => plain .clear
  | 'F' => plain .fileName
  | 'v' =>
    let version := (Text.splitAt '.' (← readLabel)).map fun part =>
      Text.decimalValue (part.takeWhile Char.isDigit)
    if version.headD 0 > 4 || version.headD 0 = 4 && version.tail.headD 0 > 9 then
      fail "expected newer version of sed"
    return .nothing
  | c => fail ("unknown command: `" ++ c.toString ++ "'")

def selector (c : Char) : Parse (Option Address × Option Ending × Option Char) := do
  if c == '+' || c == '~' then
    let _ ← next?
    fail "invalid usage of +N or ~N as first address"
  match ← address? c with
  | none => return (none, none, some c)
  | some a =>
    let isZero := match a with
      | .line 0 => true
      | _ => false
    match ← nextFilled? with
    | some ',' =>
      let e ← ending
      let after ← nextFilled?
      let isPattern := match e with
        | .address (.matching _) => true
        | _ => false
      if isZero && !isPattern then fail "invalid usage of line address 0"
      else return (some a, some e, after)
    | after =>
      if isZero then fail "invalid usage of line address 0" else return (some a, none, after)

def readCommand : Parse Bool := do
  let _ ← takeWhile fun c => c == ';' || Number.isBlank c
  match ← next? with
  | none => return false
  | some c =>
    let (first, e, after) ← selector c
    let (negated, letter?) ←
      if after == some '!' then
        let c ← nextFilled?
        if c == some '!' then fail "multiple `!'s" else pure (true, c)
      else pure (false, after)
    let add (a : Action) : Parse Unit := addCommand ⟨first, e, negated, a⟩
    match letter? with
    | none => fail "missing command"
    | some '#' =>
      if first.isSome then fail "comments don't accept any addresses"
      let start := (← get).used
      let comment ← takeWhile (· != '\n')
      if start = 1 && comment == ['n'] then modify fun r => { r with quiet := true }
      return true
    | some '\x7b' =>
      let place := (← get).commands.size
      add (.block 0)
      modify fun r => { r with blocks := place :: r.blocks }
      return true
    | some '\x7d' =>
      match (← get).blocks with
      | [] => fail "unexpected `\x7d'"
      | place :: blocks =>
        if first.isSome then fail "\x7d doesn't want any addresses"
        endCommand
        modify fun r =>
          { r with
            blocks
            commands := r.commands.modify place fun c =>
              { c with action := .block r.commands.size } }
        return true
    | some ':' =>
      if first.isSome then fail ": doesn't want any addresses"
      let label ← readLabel
      if label.isEmpty then fail "\":\" lacks a label"
      modify fun r => { r with labels := (label, r.commands.size) :: r.labels }
      return true
    | some letter =>
      let single := letter == 'q' || letter == 'Q'
      if single && e.isSome then fail "command only uses one address"
      add (← actionOf letter)
      return true

def readCommands : Nat → Parse Unit
  | 0 => pure ()
  | limit + 1 => do
    if ← readCommand then readCommands limit

def scriptOf (extended : Bool) (text : Bytes) : Except Failure Script := do
  let (_, r) ← readCommands (text.length + 1) { rest := text, extended }
  if !r.blocks.isEmpty then throw ⟨"unmatched `\x7b'", some 0⟩
  let labels := r.labels
  let missing := r.commands.toList.findSome? fun c => match c.action with
    | .jump _ label =>
      if label.isEmpty || (labels.lookup label).isSome then none else some label
    | _ => none
  match missing with
  | some label => throw ⟨"can't find label for jump to `" ++ String.ofList label ++ "'", none⟩
  | none => return ⟨r.commands, labels, r.quiet⟩

end Gesture.Shell.Program.Sed
