import Gesture.Regex
import Gesture.Shell.Regular

namespace Gesture.Shell.Program.Lookaround

inductive Error where
  | unsupported
  | invalid
  deriving DecidableEq, Repr

/-- A group that is open: what is written at the end of a branch and after the last one, what stands
    between branches, and the settings that were opened inside of it. -/
structure Level where
  between : List Char := ['|']
  close : List Char := [')']
  settings : List (List Char) := []

structure Draft where
  pieces : List (List Char) := []
  levels : List Level := []
  groups : Nat := 0
  marks : List Nat := []

namespace Draft

def write (d : Draft) (text : List Char) : Draft :=
  { d with pieces := text :: d.pieces }

def shifted (d : Draft) (group : Nat) : Nat :=
  d.marks.reverse.foldl (fun n mark => if mark ≤ n then n + 1 else n) group

/-- Closes the settings at the end of a branch. A line end closes a comment, if there may be one. -/
def closeSettings (d : Draft) : Draft :=
  match d.levels with
  | [] => d
  | l :: _ => d.write (l.settings.flatMap fun text => if text.contains 'x' then ['\n', ')'] else [')'])

def openLevel (d : Draft) (text : List Char) (l : Level) : Draft :=
  { d.write text with levels := l :: d.levels }

def branch (d : Draft) : Draft :=
  match d.levels with
  | [] => d.write ['|']
  | l :: _ => (d.closeSettings.write l.between).write (l.settings.reverse.flatten)

def closeLevel (d : Draft) : Except Error Draft :=
  match d.levels with
  | [] | [_] => .error .invalid
  | l :: outer => .ok { d.closeSettings.write l.close with levels := outer }

def openSettings (d : Draft) (text : List Char) : Draft :=
  match d.levels with
  | [] => d.write text
  | l :: outer =>
    { d.write text with levels := { l with settings := text :: l.settings } :: outer }

end Draft

def literal (c : Char) : List Char :=
  if c.isAlphanum || 128 ≤ c.toNat || c == '_' then [c] else ['\\', c]

def coded (code : Nat) : List Char :=
  let digits := Nat.toDigits 16 code
  "\\U".toList ++ List.replicate (8 - digits.length) '0' ++ digits

def classMembers? : Char → Option String
  | 'h' => some " \\t\\xa0"
  | 'v' | 'R' => some "\\n\\x0b\\x0c\\r\\x85\\u2028\\u2029"
  | 'd' => some "0-9"
  | 'w' => some "a-zA-Z0-9_"
  | 's' => some " \\t\\n\\x0b\\x0c\\r"
  | _ => none

def namedMembers? (name : List Char) : Option String :=
  match String.ofList name with
  | "alpha" => some "a-zA-Z"
  | "digit" => some "0-9"
  | "alnum" => some "a-zA-Z0-9"
  | "upper" => some "A-Z"
  | "lower" => some "a-z"
  | "space" => some "\\s"
  | "blank" => some " \\t"
  | "punct" => some "!-/:-@\\[-\\x60\\x7b-~"
  | "print" => some " -~"
  | "graph" => some "!-~"
  | "cntrl" => some "\\x00-\\x1f\\x7f"
  | "xdigit" => some "0-9A-Fa-f"
  | "word" => some "a-zA-Z0-9_"
  | "ascii" => some "\\x00-\\x7f"
  | _ => none

def propertyMembers? (name : List Char) : Option String :=
  match String.ofList name with
  | "L" | "L&" => some "a-zA-Z\\xaa\\xb5\\xba\\xc0-\\xd6\\xd8-\\xf6\\xf8-\\u02c1\\u0370-\\u1fff"
  | "Lu" => some "A-Z\\xc0-\\xd6\\xd8-\\xde\\u0391-\\u03a9\\u0410-\\u042f"
  | "Ll" => some "a-z\\xb5\\xdf-\\xf6\\xf8-\\xff\\u03b1-\\u03c9\\u0430-\\u044f"
  | "N" | "Nd" => some "0-9"
  | "P" => some "!-#%-*,-/:;?@\\[-\\]_\\x7b\\x7d\\xa1\\xa7\\xab\\xb6\\xb7\\xbb\\xbf\\u2010-\\u2027"
  | "S" => some "$+<=>^\\x60|~\\xa2-\\xa6\\xa8\\xa9\\xac\\xae-\\xb1\\xb4\\xd7\\xf7\\u20a0-\\u20bf"
  | "Z" | "Zs" => some " \\xa0\\u2000-\\u200a\\u2028\\u2029\\u202f\\u3000"
  | "Cc" => some "\\x00-\\x1f\\x7f-\\x9f"
  | "Any" => some "\\s\\S"
  | _ => none

def inBraces? (text : List Char) : Option (List Char × List Char) :=
  match text with
  | '\x7b' :: rest =>
    let inner := rest.takeWhile (· != '\x7d')
    match rest.drop inner.length with
    | _ :: after => some (inner, after)
    | [] => none
  | _ => none

/-- The name of a property after its letter, whether it is turned round, and the text after it. -/
def property? (text : List Char) : Option (List Char × Bool × List Char) :=
  match inBraces? text, text with
  | some ('^' :: name, rest), _ => some (name, true, rest)
  | some (name, rest), _ => some (name, false, rest)
  | none, c :: rest => if c == '\x7b' then none else some ([c], false, rest)
  | none, [] => none

def codeAfter? (c : Char) (text : List Char) : Option (Nat × List Char) := do
  let base := if c == 'x' then 16 else 8
  let value (digits : List Char) : Option Nat :=
    digits.foldlM
      (fun n d => do
        let v ← Text.hexValue? d
        if v < base then some (base * n + v) else none)
      0
  match inBraces? text with
  | some (digits, rest) => return (← value digits, rest)
  | none =>
    if c == 'o' then none
    else
      let digits := (text.take 2).takeWhile fun d => (Text.hexValue? d).isSome
      return (← value digits, text.drop digits.length)

def setEscape (c : Char) (rest : List Char) : Except Error (List Char × List Char) :=
  match classMembers? c with
  | some members => .ok (members.toList, rest)
  | none =>
    if "DWSnrtfab".toList.contains c then .ok (['\\', c], rest)
    else if c == 'e' then .ok (coded 27, rest)
    else if c == 'x' || c == 'o' then
      match codeAfter? c rest with
      | some (code, rest) => .ok (coded code, rest)
      | none => .error .invalid
    else if c == 'c' then
      match rest with
      | d :: rest => .ok (coded (d.toUpper.toNat ^^^ 64), rest)
      | [] => .error .invalid
    else if c == 'p' || c == 'P' then
      match property? rest with
      | some (name, turned, rest) =>
        match propertyMembers? name, turned != (c == 'P') with
        | some members, false => .ok (members.toList, rest)
        | _, _ => .error .unsupported
      | none => .error .invalid
    else if c.isDigit then
      let digits := ((c :: rest).take 3).takeWhile fun d => '0' ≤ d && d ≤ '7'
      if digits.isEmpty then .ok ([c], rest)
      else
        .ok (coded (digits.foldl (fun n d => 8 * n + (d.toNat - 48)) 0),
          (c :: rest).drop digits.length)
    else if c.isAlpha then .error .invalid
    else .ok (literal c, rest)

def setMembers : Nat → Bool → List Char → Except Error (List (List Char) × List Char)
  | 0, _, _ => .error .invalid
  | limit + 1, first, text => do
    match text with
    | [] => throw .invalid
    | ']' :: rest =>
      if first then
        let (more, rest) ← setMembers limit false rest
        return (['\\', ']'] :: more, rest)
      else return ([], rest)
    | '[' :: ':' :: rest =>
      let name := rest.takeWhile fun c => c.isAlpha || c == '^'
      match rest.drop name.length with
      | ':' :: ']' :: after =>
        match namedMembers? name with
        | some members =>
          let (more, rest) ← setMembers limit false after
          return (members.toList :: more, rest)
        | none => throw (if name.head? == some '^' then .unsupported else .invalid)
      | _ =>
        let (more, rest) ← setMembers limit false (':' :: rest)
        return (['\\', '['] :: more, rest)
    | '\\' :: 'E' :: rest => setMembers limit first rest
    | '\\' :: 'Q' :: rest =>
      match rest with
      | '\\' :: 'E' :: rest => setMembers limit first rest
      | c :: rest =>
        let (more, rest) ← setMembers limit false ('\\' :: 'Q' :: rest)
        return (literal c :: more, rest)
      | [] => throw .invalid
    | '\\' :: c :: rest =>
      let (member, after) ← setEscape c rest
      let isClass := "dDwWshvRpP".toList.contains c
      let (more, rest) ← setMembers limit false after
      /- A hyphen after a class is itself. -/
      match isClass, more with
      | true, ['-'] :: more => return (member :: ['\\', '-'] :: more, rest)
      | _, _ => return (member :: more, rest)
    | c :: rest =>
      let (more, rest) ← setMembers limit false rest
      return ((if c == '-' then [c] else literal c) :: more, rest)

def set (text : List Char) : Except Error (List Char × List Char) := do
  let (sign, text) : List Char × List Char := match text with
    | '^' :: rest => (['^'], rest)
    | text => ([], text)
  let (members, rest) ← setMembers (2 * text.length + 1) true text
  return (['['] ++ sign ++ members.flatten ++ [']'], rest)

def reference (d : Draft) (text : List Char) : Except Error (List Char) :=
  match text with
  | '-' :: digits =>
    if digits.all Char.isDigit && !digits.isEmpty then
      let back := Text.decimalValue digits
      let own := d.groups - d.marks.length
      if back ≤ own && back ≠ 0 then .ok (group (d.shifted (own + 1 - back))) else .error .invalid
    else .error .invalid
  | digits =>
    if digits.isEmpty then .error .invalid
    else if digits.all Char.isDigit then .ok (group (d.shifted (Text.decimalValue digits)))
    else .ok ("(?P=".toList ++ digits ++ [')'])
where
  group (n : Nat) : List Char :=
    "(?:\\".toList ++ Nat.toDigits 10 n ++ [')']

def named? (text : List Char) : Option (List Char × List Char) :=
  let upTo (c : Char) (rest : List Char) : Option (List Char × List Char) :=
    let name := rest.takeWhile (· != c)
    match rest.drop name.length with
    | _ :: after => some (name, after)
    | [] => none
  match text with
  | '<' :: rest => upTo '>' rest
  | '\'' :: rest => upTo '\'' rest
  | '\x7b' :: rest => upTo '\x7d' rest
  | _ => none

def escape (d : Draft) (c : Char) (rest : List Char) : Except Error (Draft × List Char) := do
  if c == 'K' then
    let number := d.groups + 1
    return ({ d.write ['(', ')'] with groups := number, marks := number :: d.marks }, rest)
  if "DWSbB".toList.contains c then return (d.write ("(?a:\\".toList ++ [c, ')']), rest)
  if "Anrtfa".toList.contains c then return (d.write ['\\', c], rest)
  match classMembers? c with
  | some members =>
    let text := if c == 'R' then "(?:\\r\\n|[" ++ members ++ "])" else "[" ++ members ++ "]"
    return (d.write text.toList, rest)
  | none =>
    match c with
    | 'H' => return (d.write "[^ \\t\\xa0]".toList, rest)
    | 'V' => return (d.write "[^\\n\\x0b\\x0c\\r]".toList, rest)
    | 'N' => return (d.write "[^\\n]".toList, rest)
    | 'X' => return (d.write ['.'], rest)
    | 'z' => return (d.write "\\Z".toList, rest)
    | 'Z' => return (d.write "(?=\\n?\\Z)".toList, rest)
    | 'G' => return (d.write "\\A".toList, rest)
    | 'e' => return (d.write (coded 27), rest)
    | 'E' => return (d, rest)
    | 'c' =>
      match rest with
      | k :: rest => return (d.write (coded (k.toUpper.toNat ^^^ 64)), rest)
      | [] => throw .invalid
    | 'x' | 'o' =>
      match codeAfter? c rest with
      | some (code, rest) => return (d.write (coded code), rest)
      | none => throw .invalid
    | 'p' | 'P' =>
      match property? rest with
      | some (name, turned, rest) =>
        match propertyMembers? name with
        | some members =>
          let sign := if turned != (c == 'P') then "[^" else "["
          return (d.write (sign ++ members ++ "]").toList, rest)
        | none => throw .unsupported
      | none => throw .invalid
    | 'k' =>
      match named? rest with
      | some (name, rest) => return (d.write (← reference d name), rest)
      | none => throw .invalid
    | 'g' =>
      match inBraces? rest with
      | some (name, rest) => return (d.write (← reference d name), rest)
      | none =>
        let sign := rest.takeWhile (· == '-')
        let digits := (rest.drop sign.length).takeWhile Char.isDigit
        if digits.isEmpty then throw .unsupported
        return (d.write (← reference d (sign ++ digits)), rest.drop (sign.length + digits.length))
    | c =>
      if c == '0' then
        let digits := (rest.take 2).takeWhile fun d => '0' ≤ d && d ≤ '7'
        return (d.write (coded (digits.foldl (fun n d => 8 * n + (d.toNat - 48)) 0)),
          rest.drop digits.length)
      else if c.isDigit then
        let digits := c :: rest.takeWhile Char.isDigit
        return (d.write (← reference d digits), rest.drop (digits.length - 1))
      else if c.isAlpha then throw .invalid
      else return (d.write (literal c), rest)

def groupHead (d : Draft) (text : List Char) : Except Error (Draft × List Char) := do
  let plain (head : String) (rest : List Char) : Except Error (Draft × List Char) :=
    .ok (d.openLevel head.toList {}, rest)
  match text with
  | '?' :: ':' :: rest => plain "(?:" rest
  | '?' :: '=' :: rest => plain "(?=" rest
  | '?' :: '!' :: rest => plain "(?!" rest
  | '?' :: '>' :: rest => plain "(?>" rest
  | '?' :: '<' :: '=' :: rest =>
    return (d.openLevel "(?:(?<=".toList { between := ")|(?<=".toList, close := [')', ')'] }, rest)
  | '?' :: '<' :: '!' :: rest =>
    return (d.openLevel "(?:(?<!".toList { between := ")(?<!".toList, close := [')', ')'] }, rest)
  | '?' :: '#' :: rest =>
    match rest.dropWhile (· != ')') with
    | _ :: rest => return (d, rest)
    | [] => throw .invalid
  | '?' :: 'P' :: '=' :: rest =>
    let name := rest.takeWhile (· != ')')
    return (d.write ("(?P=".toList ++ name ++ [')']), rest.drop (name.length + 1))
  | '?' :: '(' :: rest =>
    let inner := rest.takeWhile (· != ')')
    let name := inner.filter fun c => c != '<' && c != '>' && c != '\''
    if name.isEmpty || !name.all fun c => c.isAlphanum || c == '_' then throw .unsupported
    let shown := if name.all Char.isDigit then Nat.toDigits 10 (d.shifted (Text.decimalValue name))
      else name
    return (d.openLevel ("(?(".toList ++ shown ++ [')']) {}, rest.drop (inner.length + 1))
  | '?' :: rest =>
    let rest' := match rest with
      | 'P' :: '<' :: more => '<' :: more
      | rest => rest
    match named? rest' with
    | some (name, after) =>
      return ({ d.openLevel ("(?P<".toList ++ name ++ ['>']) {} with groups := d.groups + 1 }, after)
    | none =>
      let flags := rest.takeWhile fun c => "imsx-".toList.contains c
      if flags.isEmpty then throw .unsupported
      match rest.drop flags.length with
      | ':' :: after => plain ("(?" ++ String.ofList flags ++ ":") after
      | ')' :: after =>
        return (d.openSettings ("(?".toList ++ flags ++ [':']), after)
      | _ => throw .unsupported
  | '*' :: _ => throw .unsupported
  | text =>
    return ({ d.openLevel ['('] {} with groups := d.groups + 1 }, text)

def isRepetition (text : List Char) : Bool :=
  match inBraces? ('\x7b' :: text) with
  | some (inner, _) =>
    let low := inner.takeWhile Char.isDigit
    match inner.drop low.length with
    | [] => !low.isEmpty
    | ',' :: high => !low.isEmpty && high.all Char.isDigit
    | _ => false
  | none => false

def rewrite : Nat → Draft → List Char → Except Error Draft
  | 0, d, _ => .ok d
  | limit + 1, d, text => do
    match text with
    | [] => return d
    | '\\' :: 'Q' :: rest =>
      match rest with
      | [] => return d
      | '\\' :: 'E' :: rest => rewrite limit d rest
      | c :: rest => rewrite limit (d.write (literal c)) ('\\' :: 'Q' :: rest)
    | ['\\'] => throw .invalid
    | '\\' :: c :: rest =>
      let (d, rest) ← escape d c rest
      rewrite limit d rest
    | '[' :: rest =>
      let (shown, rest) ← set rest
      rewrite limit (d.write shown) rest
    | '(' :: rest =>
      let (d, rest) ← groupHead d rest
      rewrite limit d rest
    | ')' :: rest => rewrite limit (← d.closeLevel) rest
    | '|' :: rest => rewrite limit d.branch rest
    | '\x7b' :: rest =>
      rewrite limit (d.write (if isRepetition rest then ['\x7b'] else ['\\', '\x7b'])) rest
    | c :: rest => rewrite limit (d.write [c]) rest

structure Pattern where
  program : Regex.Program
  marks : List Nat

/-- The pattern that a text writes. Classes are those of ASCII, but cases are those of all
    scripts. -/
def compile (ignoresCase : Bool) (front back text : List Char) : Except Error Pattern := do
  let d ← rewrite (2 * text.length + 1) { levels := [{}] } text
  let d := d.closeSettings
  if 1 < d.levels.length then throw .invalid
  let flags := if ignoresCase then "(?i)" else ""
  let whole := flags.toList ++ front ++ d.pieces.reverse.flatten ++ back
  match Regex.parse whole with
  | .error _ => throw .invalid
  | .ok e =>
    match Regex.Program.ofExpression e with
    | .error _ => throw .invalid
    | .ok program => return ⟨program, d.marks⟩

def Pattern.find? (p : Pattern) (text : Array Char) (start : Nat) : Option (Nat × Nat) :=
  (p.program.firstMatch? text start).map fun (place, record) =>
    let marked := p.marks.filterMap fun group => (record.bounds? (group - 1)).map (·.1)
    (marked.head?.getD place, record.cursor)

end Gesture.Shell.Program.Lookaround
