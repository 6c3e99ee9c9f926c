import Gesture.Shell.Syntax

namespace Gesture.Shell

/-- Text to be read. The text of an alias has the alias's name, which is not replaced again inside
    of it. -/
structure Source where
  text : Bytes
  aliasName : Option Bytes := none
  blankAtEnd : Bool := false

inductive Keyword where
  | not | case | do | done | elif | else | esac | fi | for | if | in | then | until | while
  | open | close
  deriving DecidableEq, Repr

def Keyword.ofText? (text : Bytes) : Option Keyword :=
  match String.ofList text with
  | "!" => some .not
  | "case" => some .case
  | "do" => some .do
  | "done" => some .done
  | "elif" => some .elif
  | "else" => some .else
  | "esac" => some .esac
  | "fi" => some .fi
  | "for" => some .for
  | "if" => some .if
  | "in" => some .in
  | "then" => some .then
  | "until" => some .until
  | "while" => some .while
  | "\x7b" => some .open
  | "\x7d" => some .close
  | _ => none

inductive Token where
  | ending
  | newline
  | semicolon
  | background
  | both
  | either
  | pipe
  | open
  | close
  | choiceEnd
  | word
  | redirection
  | keyword (k : Keyword)
  deriving DecidableEq, Repr

def Token.endsList : Token → Bool
  | .ending | .close | .choiceEnd => true
  | .keyword k => [.do, .done, .elif, .else, .esac, .fi, .then, .close].contains k
  | _ => false

inductive Sign where
  | file (opening : Opening)
  | copy
  | document (indented : Bool)
  deriving DecidableEq, Repr

structure Awaited where
  number : Nat
  delimiter : Bytes
  expanded : Bool
  indented : Bool

structure Reader where
  sources : List Source
  lineNumber : Nat := 1
  left : List Bytes := []
  aliases : List (Bytes × Bytes)
  aliasNext : Bool := false
  again : Bool := false
  token : Token := .newline
  word : Word := []
  wordQuoted : Bool := false
  sign : Sign := .copy
  descriptor : Nat := 0
  documents : Array Word := #[]
  awaited : List Awaited := []

inductive SyntaxError where
  | unexpected (t : Token)
  | missing (expected found : Token)
  | unterminatedQuotes
  | missingBrace
  | missingParentheses
  | unterminatedBackquotes
  | badLoopVariable
  | badFunctionName
  | tooDeep
  deriving DecidableEq, Repr

def Keyword.shown : Keyword → String
  | .not => "!"
  | .case => "case"
  | .do => "do"
  | .done => "done"
  | .elif => "elif"
  | .else => "else"
  | .esac => "esac"
  | .fi => "fi"
  | .for => "for"
  | .if => "if"
  | .in => "in"
  | .then => "then"
  | .until => "until"
  | .while => "while"
  | .open => "\x7b"
  | .close => "\x7d"

def Token.shown : Token → String
  | .ending => "end of file"
  | .newline => "newline"
  | .semicolon => "\";\""
  | .background => "\"&\""
  | .both => "\"&&\""
  | .either => "\"||\""
  | .pipe => "\"|\""
  | .open => "\"(\""
  | .close => "\")\""
  | .choiceEnd => "\";;\""
  | .word => "word"
  | .redirection => "redirection"
  | .keyword k => "\"" ++ k.shown ++ "\""

def SyntaxError.message (e : SyntaxError) : String :=
  "Syntax error: " ++ match e with
    | .unexpected t => t.shown ++ " unexpected"
    | .missing expected found =>
      found.shown ++ " unexpected (expecting " ++ expected.shown ++ ")"
    | .unterminatedQuotes => "Unterminated quoted string"
    | .missingBrace => "Missing '\x7d'"
    | .missingParentheses => "Missing '))'"
    | .unterminatedBackquotes => "EOF in backquote substitution"
    | .badLoopVariable => "Bad for loop variable"
    | .badFunctionName => "Bad function name"
    | .tooDeep => "Too many levels"

abbrev Parse := EStateM SyntaxError Reader

inductive Enclosure where
  | quotes (insideBraces : Bool)
  | braces (insideQuotes : Bool)
  | arithmetic
  deriving DecidableEq, Repr

structure Nested where
  script : Parse Script
  enclosed : Enclosure → Parse Word

namespace Lexer

def roundLimit : Nat := 100000000

def repeating {α β : Type} (start : α) (step : α → Parse (α ⊕ β)) : Parse β :=
  iterate .tooDeep step roundLimit start

def takeFrom : List Source → List Bytes → Bool → Option Char × List Source × List Bytes × Bool
  | [], left, blank => (none, [], left, blank)
  | source :: outer, left, blank =>
    match source.text with
    | c :: rest => (some c, { source with text := rest } :: outer, left, blank)
    | [] =>
      if outer.isEmpty then (none, [source], left, blank)
      else takeFrom outer (source.aliasName.toList ++ left) (blank || source.blankAtEnd)

def next : Parse (Option Char) := do
  let r ← get
  let (c?, sources, left, aliasNext) := takeFrom r.sources r.left r.aliasNext
  let lineNumber := if c? == some '\n' then r.lineNumber + 1 else r.lineNumber
  set { r with sources, left, aliasNext, lineNumber }
  return c?

def back : Option Char → Parse Unit
  | none => pure ()
  | some c => modify fun r =>
    let lineNumber := if c == '\n' then r.lineNumber - 1 else r.lineNumber
    match r.sources with
    | source :: outer =>
      { r with sources := { source with text := c :: source.text } :: outer, lineNumber }
    | [] => { r with sources := [⟨[c], none, false⟩], lineNumber }

def nextJoined : Parse (Option Char) :=
  repeating () fun _ => do
    match ← next with
    | some '\\' =>
      match ← next with
      | some '\n' => return .inl ()
      | c? =>
        back c?
        return .inr (some '\\')
    | c? => return .inr c?

/-- Reads another text, whose lines are counted from a number on, in place of the one at hand. -/
def within {α : Type} (text : Bytes) (lineNumber : Nat) (read : Parse α) : Parse α := do
  let outer ← get
  set { outer with
    sources := [⟨text, none, false⟩], again := false, aliasNext := false, lineNumber }
  let a ← read
  modify fun r =>
    { r with
      sources := outer.sources
      again := false
      aliasNext := outer.aliasNext
      lineNumber := outer.lineNumber }
  return a

def nextWhile (test : Char → Bool) (start : Bytes) : Parse (Bytes × Option Char) :=
  repeating start fun before => do
    match ← nextJoined with
    | some c => if test c then return .inl (c :: before) else return .inr (before.reverse, some c)
    | none => return .inr (before.reverse, none)

def isMagic (c : Char) : Bool :=
  "!*?[=~:/-".toList.contains c

def isSeparator (c : Char) : Bool :=
  "<>();&| \t".toList.contains c

def isSpecial (c : Char) : Bool :=
  "!@*#?$-".toList.contains c || c.isDigit

def singleQuoted : Parse Word :=
  repeating [] fun before => do
    match ← next with
    | none => throw .unterminatedQuotes
    | some '\'' => return .inr before.reverse
    | some c => return .inl (.char c (isMagic c || c == '\\') :: before)

def scriptInParentheses (nested : Nested) : Parse Script := do
  let outer ← get
  set { outer with again := false, awaited := [] }
  let script ← nested.script
  if (← get).token != .close then throw (.missing .close (← get).token)
  modify fun r => { r with again := false, awaited := outer.awaited }
  return script

/-- The text up to a closing backquote. A backslash hides a backquote, a dollar sign and another
    backslash. -/
def backquotedText (insideQuotes : Bool) : Parse Bytes :=
  repeating [] fun before => do
    match ← nextJoined with
    | none => throw .unterminatedBackquotes
    | some '\x60' => return .inr before.reverse
    | some '\\' =>
      match ← next with
      | none => throw .unterminatedBackquotes
      | some c =>
        if c == '\\' || c == '\x60' || c == '$' || (insideQuotes && c == '"') then
          return .inl (c :: before)
        else return .inl (c :: '\\' :: before)
    | some c => return .inl (c :: before)

def backquotedScript (nested : Nested) (insideQuotes : Bool) : Parse Script := do
  let text ← backquotedText insideQuotes
  let outer := (← get).awaited
  modify fun r => { r with awaited := [] }
  let script ← within text 1 nested.script
  modify fun r => { r with awaited := outer }
  return script

def useOf? : Char → Option Use
  | '-' => some .orElse
  | '+' => some .instead
  | '?' => some .require
  | '=' => some .assign
  | _ => none

/-- A parameter's name in braces, whether its length is asked for, and the character after it.
    Without a name there is no use for it. -/
def bracedName : Parse (Option Bytes × Bool × Option Char) := do
  let named (c : Char) : Parse (Bytes × Option Char) :=
    nextWhile (if c.isDigit then Char.isDigit else isNameChar) [c]
  match ← nextJoined with
  | none => return (none, false, none)
  | some '\x7d' => return (none, false, some '\x7d')
  | some '#' =>
    match ← nextJoined with
    | none => return (some ['#'], false, none)
    | some c =>
      if isNameChar c then
        let (name, after) ← named c
        return (some name, true, after)
      else if c == '\x7d' then return (some ['#'], false, some c)
      else
        let after ← nextJoined
        if after == some '\x7d' then
          return (if isSpecial c then some [c] else none, true, after)
        else
          back after
          return (some ['#'], false, some c)
  | some c =>
    if isNameStart c || c.isDigit then
      let (name, after) ← named c
      return (some name, false, after)
    else
      let after ← nextJoined
      return (if isSpecial c then some [c] else none, false, after)

def bracedUse (first : Option Char) : Parse (Use × Bool) := do
  match first with
  | some ':' =>
    match ← nextJoined with
    | some c =>
      match useOf? c with
      | some use => return (use, true)
      | none => if c == '\x7d' then throw .missingBrace else return (.unknown, true)
    | none => throw .missingBrace
  | some '%' =>
    match ← nextJoined with
    | some '%' => return (.trimEnd true, false)
    | c? =>
      back c?
      return (.trimEnd false, false)
  | some '#' =>
    match ← nextJoined with
    | some '#' => return (.trimStart true, false)
    | c? =>
      back c?
      return (.trimStart false, false)
  | some c => return ((useOf? c).getD .unknown, false)
  | none => return (.unknown, false)

def bracedParameter (nested : Nested) (insideQuotes : Bool) : Parse Part := do
  let (name?, length, after) ← bracedName
  match name? with
  | none =>
    back after
    let _ ← nested.enclosed (.braces insideQuotes)
    return .parameter [] .unknown false []
  | some name =>
    if length then
      back after
      let use := if after == some '\x7d' then Use.length else .unknown
      let word ← nested.enclosed (.braces insideQuotes)
      return .parameter name use false word
    else if after == some '\x7d' then return .parameter name .value false []
    else
      let (use, filled) ← bracedUse after
      let quoted := match use with
        | .trimEnd _ | .trimStart _ => false
        | _ => insideQuotes
      let word ← nested.enclosed (.braces quoted)
      return .parameter name use filled word

def substitution (nested : Nested) (insideQuotes : Bool) : Parse Part := do
  match ← nextJoined with
  | none => return .char '$' false
  | some '(' =>
    match ← nextJoined with
    | some '(' => return .sum (← nested.enclosed .arithmetic)
    | c? =>
      back c?
      return .output (← scriptInParentheses nested)
  | some '\x7b' => bracedParameter nested insideQuotes
  | some c =>
    if isNameStart c then
      let (name, after) ← nextWhile isNameChar [c]
      back after
      return .parameter name .value false []
    else if isSpecial c then return .parameter [c] .value false []
    else
      back (some c)
      return .char '$' false

/-- What a backslash inside of double quotes amounts to, if it hides the characters of a list. The
    parts are in reverse. -/
def quotedEscape (hidden : List Char) : Parse Word := do
  match ← next with
  | none => return [.char '\\' true]
  | some c =>
    if hidden.contains c then return [.char c true]
    else return [.char c true, .char '\\' true]

def alwaysHidden : List Char := ['\\', '\x60', '$']

def doubleQuoted (nested : Nested) (insideBraces : Bool) : Parse Word :=
  let hidden := '"' :: (if insideBraces then '\x7d' :: alwaysHidden else alwaysHidden)
  repeating [] fun before => do
    match ← nextJoined with
    | none => throw .unterminatedQuotes
    | some '"' => return .inr before.reverse
    | some '\\' => return .inl ((← quotedEscape hidden) ++ before)
    | some '$' => return .inl ((← substitution nested true) :: before)
    | some '\x60' => return .inl (.output (← backquotedScript nested true) :: before)
    | some c => return .inl (.char c (isMagic c) :: before)

/-- A word in braces inside of double quotes, up to the closing brace. There, quotes only keep a
    brace from closing. -/
def bracedInQuotes (nested : Nested) : Parse Word :=
  repeating (([] : Word), false) fun (before, kept) => do
    match ← nextJoined with
    | none => throw .unterminatedQuotes
    | some '"' => return .inl (.quote :: before, !kept)
    | some '\\' => return .inl ((← quotedEscape ('"' :: '\x7d' :: alwaysHidden)) ++ before, kept)
    | some '$' => return .inl ((← substitution nested true) :: before, kept)
    | some '\x60' => return .inl (.output (← backquotedScript nested true) :: before, kept)
    | some '\x7d' =>
      if kept then return .inl (.char '\x7d' false :: before, kept)
      else return .inr before.reverse
    | some c => return .inl (.char c (isMagic c) :: before, kept)

/-- What a character outside of quotes starts, with the parts in reverse. Nothing comes of a
    character that stands for itself. -/
def openPart? (nested : Nested) (insideBraces : Bool) (c : Char) : Parse (Option Word) := do
  match c with
  | '\\' =>
    match ← next with
    | none => return some [.char '\\' true]
    | some c => return some [.char c true]
  | '\'' => return some (.quote :: (← singleQuoted).reverse ++ [.quote])
  | '"' =>
    return some (.quote :: (← nested.enclosed (.quotes insideBraces)).reverse ++ [.quote])
  | '$' => return some [← substitution nested false]
  | '\x60' => return some [.output (← backquotedScript nested false)]
  | _ => return none

def braced (nested : Nested) : Parse Word :=
  repeating [] fun before => do
    match ← nextJoined with
    | none => throw .missingBrace
    | some '\x7d' => return .inr before.reverse
    | some c =>
      match ← openPart? nested true c with
      | some parts => return .inl (parts ++ before)
      | none => return .inl (.char c false :: before)

def arithmetic (nested : Nested) : Parse Word :=
  repeating (([] : Word), 0) fun (before, depth) => do
    match ← nextJoined with
    | none => throw .missingParentheses
    | some '(' => return .inl (.char '(' false :: before, depth + 1)
    | some ')' =>
      if depth ≠ 0 then return .inl (.char ')' false :: before, depth - 1)
      else
        match ← nextJoined with
        | some ')' => return .inr before.reverse
        | c? =>
          back c?
          return .inl (.char ')' false :: before, depth)
    | some '\\' => return .inl ((← quotedEscape ('"' :: alwaysHidden)) ++ before, depth)
    | some '$' => return .inl ((← substitution nested true) :: before, depth)
    | some '\x60' => return .inl (.output (← backquotedScript nested true) :: before, depth)
    | some c => return .inl (.char c false :: before, depth)

def enclosed (nested : Nested) : Enclosure → Parse Word
  | .quotes insideBraces => doubleQuoted nested insideBraces
  | .braces true => bracedInQuotes nested
  | .braces false => braced nested
  | .arithmetic => arithmetic nested

/-- The text of a document that is expanded, up to its end. There, double quotes are plain
    characters. -/
def documentText (nested : Nested) : Parse Word :=
  repeating [] fun before => do
    match ← nextJoined with
    | none => return .inr before.reverse
    | some '\\' => return .inl ((← quotedEscape alwaysHidden) ++ before)
    | some '$' => return .inl ((← substitution nested true) :: before)
    | some '\x60' => return .inl (.output (← backquotedScript nested true) :: before)
    | some c => return .inl (.char c (isMagic c) :: before)

def line : Parse (Bytes × Bool) :=
  repeating [] fun before => do
    match ← next with
    | none => return .inr (before.reverse, false)
    | some '\n' => return .inr (before.reverse, true)
    | some c => return .inl (c :: before)

def isContinued (line : Bytes) : Bool :=
  (line.reverse.takeWhile (· == '\\')).length % 2 == 1

/-- The lines up to a document's delimiter. Where backslashes count, a line whose end is hidden goes
    on in the next one. -/
def documentLines (awaited : Awaited) : Parse Bytes := do
  let text ← repeating (([] : List Bytes), false) fun (before, continued) => do
    let (text, ended) ← line
    let text := if awaited.indented && !continued then text.dropWhile (· == '\t') else text
    if !continued && text == awaited.delimiter then return .inr before
    else if !ended then return .inr (text :: before)
    else return .inl ((text ++ ['\n']) :: before, awaited.expanded && isContinued text)
  return text.reverse.flatten

def readDocuments (nested : Nested) : Parse Unit := do
  let awaited := (← get).awaited
  modify fun r => { r with awaited := [] }
  awaited.forM fun a => do
    let lineNumber := (← get).lineNumber
    let text ← documentLines a
    let word ← if a.expanded then within text lineNumber (documentText nested)
      else pure (text.map fun c => .char c true)
    modify fun r => { r with documents := r.documents.setIfInBounds a.number word }

/-- The parts of a word that starts with a character, and whether it has quotes. In the delimiter of
    a document, a dollar sign and a backquote are plain. -/
def wordParts (nested : Nested) (delimiter : Bool) (first : Option Char) :
    Parse (Word × Bool × Option Char) := do
  back first
  repeating (([] : Word), false) fun (before, quoted) => do
    match ← nextJoined with
    | none => return .inr (before.reverse, quoted, none)
    | some c =>
      if c == '\n' || isSeparator c then return .inr (before.reverse, quoted, some c)
      else if delimiter && (c == '$' || c == '\x60') then
        return .inl (.char c false :: before, quoted)
      else
        match ← openPart? nested false c with
        | some parts =>
          return .inl (parts ++ before, quoted || c == '\\' || c == '\'' || c == '"')
        | none => return .inl (.char c false :: before, quoted)

def redirectionSign (bracket : Char) (descriptor : Option Nat) : Parse Unit := do
  let second ← nextJoined
  let found (sign : Sign) (usual : Nat) : Parse Unit :=
    modify fun r => { r with sign, descriptor := descriptor.getD usual }
  if bracket == '>' then
    match second with
    | some '>' => found (.file .append) 1
    | some '|' => found (.file .overwrite) 1
    | some '&' => found .copy 1
    | c? =>
      back c?
      found (.file .write) 1
  else
    match second with
    | some '<' =>
      match ← nextJoined with
      | some '-' => found (.document true) 0
      | c? =>
        back c?
        found (.document false) 0
    | some '&' => found .copy 0
    | some '>' => found (.file .readWrite) 0
    | c? =>
      back c?
      found (.file .read) 0

/-- The descriptor that a word before an angle bracket names, if it can be one: the inner value is
    missing if there is no word. -/
def descriptorBefore? : Word → Option (Option Nat)
  | [] => some none
  | [.char c false] => if c.isDigit then some (some (c.toNat - 0x30)) else none
  | _ => none

def wordOrRedirection (nested : Nested) (delimiter : Bool) (first : Char) : Parse Token := do
  let (word, quoted, after) ← wordParts nested delimiter (some first)
  let isBracket := after == some '<' || after == some '>'
  match (if isBracket && !quoted then descriptorBefore? word else none) with
  | some descriptor =>
    redirectionSign (after.getD '<') descriptor
    return .redirection
  | none =>
    back after
    modify fun r => { r with word, wordQuoted := quoted }
    return .word

def doubled (c : Char) (yes no : Token) : Parse Token := do
  match ← nextJoined with
  | some d =>
    if d == c then return yes
    else
      back (some d)
      return no
  | none => return no

def plainToken (nested : Nested) (delimiter : Bool) : Parse Token :=
  repeating () fun _ => do
    match ← nextJoined with
    | none => return .inr .ending
    | some ' ' | some '\t' => return .inl ()
    | some '#' =>
      let _ ← repeating () fun _ => do
        match ← next with
        | some '\n' =>
          back (some '\n')
          return .inr ()
        | some _ => return .inl ()
        | none => return .inr ()
      return .inl ()
    | some '\n' => return .inr .newline
    | some '&' => return .inr (← doubled '&' .both .background)
    | some '|' => return .inr (← doubled '|' .either .pipe)
    | some ';' => return .inr (← doubled ';' .choiceEnd .semicolon)
    | some '(' => return .inr .open
    | some ')' => return .inr .close
    | some c => return .inr (← wordOrRedirection nested delimiter c)

structure Expected where
  newlines : Bool := false
  keywords : Bool := false
  aliases : Bool := false
  delimiter : Bool := false

def aliasFor? (r : Reader) : Option (Bytes × Bytes) := do
  let name ← r.word.plain?
  let text ← r.aliases.lookup name
  if (r.left ++ r.sources.filterMap (·.aliasName)).contains name then none
  else return (name, text)

/-- The next token. One that is read again is looked at anew, since something else may be special
    about it by now. -/
def token (nested : Nested) (expected : Expected) : Parse Token := do
  let found ← repeating () fun _ => do
    let t ←
      if (← get).again then
        modify fun r => { r with again := false }
        pure (← get).token
      else
        modify fun r => { r with left := [] }
        plainToken nested expected.delimiter
    match t with
    | .newline =>
      if expected.newlines then
        readDocuments nested
        return .inl ()
      else return .inr t
    | .word =>
      let r ← get
      set { r with aliasNext := false }
      if r.wordQuoted then return .inr t
      else
        match (if expected.keywords then r.word.plain?.bind Keyword.ofText? else none) with
        | some k => return .inr (.keyword k)
        | none =>
          match (if expected.aliases || r.aliasNext then aliasFor? r else none) with
          | some (name, text) =>
            let blank := match text.getLast? with
              | some c => c == ' ' || c == '\t'
              | none => false
            modify fun r => { r with sources := ⟨text, some name, blank⟩ :: r.sources }
            return .inl ()
          | none => return .inr t
    | t => return .inr t
  modify fun r => { r with token := found }
  return found

def pushBack : Parse Unit :=
  modify fun r => { r with again := true }

end Lexer

end Gesture.Shell
