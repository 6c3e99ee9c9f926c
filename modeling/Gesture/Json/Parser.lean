import Gesture.Json
import Gesture.Text.Digit

namespace Gesture.Json

inductive Fault where
  | byteOrderMark
  | expectingValue
  | expectingName
  | expectingColon
  | expectingComma
  | extraData
  | unterminated
  | control
  | badEscape
  | badCodeEscape
  deriving DecidableEq, Repr

def Fault.message : Fault → String
  | .byteOrderMark => "Unexpected UTF-8 BOM (decode using utf-8-sig)"
  | .expectingValue => "Expecting value"
  | .expectingName => "Expecting property name enclosed in double quotes"
  | .expectingColon => "Expecting ':' delimiter"
  | .expectingComma => "Expecting ',' delimiter"
  | .extraData => "Extra data"
  | .unterminated => "Unterminated string starting at"
  | .control => "Invalid control character at"
  | .badEscape => "Invalid \\escape"
  | .badCodeEscape => "Invalid \\uXXXX escape"

inductive Failure where
  | fault (f : Fault) (left : Nat)
  | digitLimit (digits : Nat)
  | tooDeep
  deriving DecidableEq, Repr

abbrev Rest (text : List Char) := { rest : List Char // rest.length < text.length }

abbrev Suffix (text : List Char) := { rest : List Char // rest.length ≤ text.length }

def isSpace (c : Char) : Bool :=
  c == ' ' || c == '\t' || c == '\n' || c == '\r'

def skipSpace : (text : List Char) → Suffix text
  | [] => ⟨[], Nat.le_refl _⟩
  | c :: text =>
    if isSpace c then
      let ⟨rest, h⟩ := skipSpace text
      ⟨rest, by simp only [List.length_cons]; omega⟩
    else ⟨c :: text, Nat.le_refl _⟩

def hexValue4? (a b c d : Char) : Option Nat := do
  let a ← Text.hexValue? a
  let b ← Text.hexValue? b
  let c ← Text.hexValue? c
  let d ← Text.hexValue? d
  return ((a * 16 + b) * 16 + c) * 16 + d

def escaped? : Char → Option Char
  | '"' => some '"'
  | '\\' => some '\\'
  | '/' => some '/'
  | 'b' => some '\x08'
  | 'f' => some '\x0c'
  | 'n' => some '\n'
  | 'r' => some '\r'
  | 't' => some '\t'
  | _ => none

def isHighSurrogate (code : Nat) : Bool :=
  decide (0xD800 ≤ code) && decide (code < 0xDC00)

def isLowSurrogate (code : Nat) : Bool :=
  decide (0xDC00 ≤ code) && decide (code < 0xE000)

def consRead {text more : List Char} (p : CodePoint) (h : more.length ≤ text.length)
    (read : Except Failure (CodeText × Suffix more)) : Except Failure (CodeText × Suffix text) :=
  read.map fun r => (p :: r.1, ⟨r.2.1, Nat.le_trans r.2.2 h⟩)

/-- The point of a code escape, and how many characters of the text after it belong to it: a second
    escape can complete a pair of surrogates. -/
def codePoint (code : Nat) : List Char → Except Failure (CodePoint × Nat)
  | '\\' :: 'u' :: a :: b :: c :: d :: _ :: rest =>
    if isHighSurrogate code then
      match hexValue4? a b c d with
      | none => .error (.fault .badCodeEscape (rest.length + 6))
      | some low =>
        if isLowSurrogate low then
          .ok (.char (Char.ofNat (0x10000 + (code - 0xD800) * 0x400 + (low - 0xDC00))), 6)
        else .ok (.ofUnit code, 0)
    else .ok (.ofUnit code, 0)
  | _ => .ok (.ofUnit code, 0)

theorem length_le_cons (c : Char) (rest : List Char) : rest.length ≤ (c :: rest).length :=
  Nat.le_succ _

theorem length_le_escape (a b : Char) (rest : List Char) :
    rest.length ≤ (a :: b :: rest).length := by
  simp only [List.length_cons]; omega

theorem length_le_codeEscape (p q a b c d e : Char) (rest : List Char) (used : Nat) :
    ((e :: rest).drop used).length ≤ (p :: q :: a :: b :: c :: d :: e :: rest).length := by
  simp only [List.length_cons, List.length_drop]; omega

theorem length_lt_escape (a b : Char) (rest : List Char) :
    rest.length < (a :: b :: rest).length := by
  simp only [List.length_cons]; omega

theorem length_lt_codeEscape (p q a b c d e : Char) (rest : List Char) (used : Nat) :
    ((e :: rest).drop used).length < (p :: q :: a :: b :: c :: d :: e :: rest).length := by
  simp only [List.length_cons, List.length_drop]; omega

def readText (opening : Nat) : (text : List Char) → Except Failure (CodeText × Suffix text)
  | [] => .error (.fault .unterminated opening)
  | '"' :: rest => .ok ([], ⟨rest, length_le_cons _ rest⟩)
  | ['\\'] => .error (.fault .unterminated opening)
  | '\\' :: 'u' :: a :: b :: c :: d :: e :: rest =>
    match hexValue4? a b c d with
    | none => .error (.fault .badCodeEscape (rest.length + 6))
    | some code =>
      match codePoint code (e :: rest) with
      | .error f => .error f
      | .ok (point, used) =>
        consRead point (length_le_codeEscape _ _ a b c d e rest used)
          (readText opening ((e :: rest).drop used))
  | '\\' :: 'u' :: rest => .error (.fault .badCodeEscape (rest.length + 1))
  | '\\' :: c :: rest =>
    match escaped? c with
    | none => .error (.fault .badEscape (rest.length + 2))
    | some plain => consRead (.char plain) (length_le_escape _ c rest) (readText opening rest)
  | c :: rest =>
    if c.toNat < 0x20 then .error (.fault .control (rest.length + 1))
    else consRead (.char c) (length_le_cons c rest) (readText opening rest)
termination_by text => text.length
decreasing_by
  · exact length_lt_codeEscape _ _ a b c d e rest used
  · exact length_lt_escape _ c rest
  · exact Nat.lt_succ_self _

theorem readText_quote (opening : Nat) (rest : List Char) :
    readText opening ('"' :: rest) = .ok ([], ⟨rest, length_le_cons _ rest⟩) := by
  rw [readText]

def isAsciiDigit (c : Char) : Bool :=
  decide ('0' ≤ c) && decide (c ≤ '9')

def digitsValue (digits : List Char) : Nat :=
  digits.foldl (fun value c => 10 * value + (c.toNat - 0x30)) 0

structure NumberText where
  negative : Bool
  whole : List Char
  fraction : List Char
  exponent : Option (Bool × List Char)
  rest : List Char

def wholeDigits : List Char → List Char
  | '0' :: _ => ['0']
  | text => text.takeWhile isAsciiDigit

def numberText? (text : List Char) : Option NumberText :=
  let negative := text.head? = some '-'
  let body := if negative then text.drop 1 else text
  let whole := wholeDigits body
  if whole.isEmpty then none
  else
    let afterWhole := body.drop whole.length
    let fraction :=
      match afterWhole with
      | '.' :: more => more.takeWhile isAsciiDigit
      | _ => []
    let afterFraction :=
      if fraction.isEmpty then afterWhole else afterWhole.drop (fraction.length + 1)
    match afterFraction with
    | e :: more =>
      if e = 'e' ∨ e = 'E' then
        let signed := more.head? = some '-' || more.head? = some '+'
        let digits := (if signed then more.drop 1 else more).takeWhile isAsciiDigit
        if digits.isEmpty then some ⟨negative, whole, fraction, none, afterFraction⟩
        else
          some ⟨negative, whole, fraction, some (more.head? = some '-', digits),
            more.drop (digits.length + if signed then 1 else 0)⟩
      else some ⟨negative, whole, fraction, none, afterFraction⟩
    | [] => some ⟨negative, whole, fraction, none, []⟩

def NumberText.value (n : NumberText) : Except Failure Json :=
  if n.fraction.isEmpty && n.exponent.isNone then
    if Text.digitLimit < n.whole.length then .error (.digitLimit n.whole.length)
    else
      let value := digitsValue n.whole
      .ok (.int (if n.negative then -(value : Int) else value))
  else
    let power : Int :=
      match n.exponent with
      | none => 0
      | some (negative, digits) =>
        if negative then -(digitsValue digits : Int) else digitsValue digits
    .ok (.float (Binary64.Decimal.value n.negative
      ⟨digitsValue (n.whole ++ n.fraction), power - n.fraction.length⟩))

def wordValues : List (List Char × Json) :=
  [("null".toList, .null), ("true".toList, .bool true), ("false".toList, .bool false),
    ("NaN".toList, .float .nan), ("Infinity".toList, .float (.infinite false)),
    ("-Infinity".toList, .float (.infinite true))]

def scalar (text : List Char) : Except Failure (Json × Rest text) :=
  match wordValues.find? (·.1.isPrefixOf text) with
  | some (word, value) =>
    if h : (text.drop word.length).length < text.length then .ok (value, ⟨_, h⟩)
    else .error (.fault .expectingValue text.length)
  | none =>
    match numberText? text with
    | none => .error (.fault .expectingValue text.length)
    | some n =>
      if h : n.rest.length < text.length then n.value.map fun v => (v, ⟨n.rest, h⟩)
      else .error (.fault .expectingValue text.length)

mutual

def value (room : Nat) (text : List Char) : Except Failure (Json × Rest text) :=
  match text with
  | '"' :: more =>
    match readText (more.length + 1) more with
    | .error e => .error e
    | .ok (s, ⟨rest, h⟩) =>
      .ok (.str s, ⟨rest, by simp only [List.length_cons]; omega⟩)
  | '[' :: more =>
    match room with
    | 0 => .error .tooDeep
    | room + 1 =>
      let ⟨start, h⟩ := skipSpace more
      if start.head? = some ']' then
        .ok (.array [], ⟨start.tail, by simp only [List.length_cons, List.length_tail]; omega⟩)
      else
        match items room start with
        | .error e => .error e
        | .ok (vs, ⟨rest, g⟩) => .ok (.array vs, ⟨rest, by simp only [List.length_cons]; omega⟩)
  | '{' :: more =>
    match room with
    | 0 => .error .tooDeep
    | room + 1 =>
      let ⟨start, h⟩ := skipSpace more
      if start.head? = some '}' then
        .ok (.object [], ⟨start.tail, by simp only [List.length_cons, List.length_tail]; omega⟩)
      else
        match members room start [] with
        | .error e => .error e
        | .ok (ms, ⟨rest, g⟩) => .ok (.object ms, ⟨rest, by simp only [List.length_cons]; omega⟩)
  | text => scalar text
termination_by 2 * text.length
decreasing_by
  all_goals simp only [List.length_cons]
  all_goals omega

def items (room : Nat) (text : List Char) : Except Failure (List Json × Rest text) :=
  match value room text with
  | .error e => .error e
  | .ok (v, ⟨rest, h⟩) =>
    let ⟨after, g⟩ := skipSpace rest
    if after.head? = some ']' then
      .ok ([v], ⟨after.tail, by simp only [List.length_tail]; omega⟩)
    else if after.head? = some ',' then
      let ⟨next, f⟩ := skipSpace after.tail
      match items room next with
      | .error e => .error e
      | .ok (vs, ⟨rest, k⟩) =>
        .ok (v :: vs, ⟨rest, by simp only [List.length_tail] at f; omega⟩)
    else .error (.fault .expectingComma after.length)
termination_by 2 * text.length + 1
decreasing_by
  · omega
  · simp only [List.length_tail] at f; omega

def members (room : Nat) (text : List Char) (before : List (CodeText × Json)) :
    Except Failure (List (CodeText × Json) × Rest text) :=
  if text.head? = some '"' then
    match readText text.length text.tail with
    | .error e => .error e
    | .ok (name, ⟨rest, h⟩) =>
      let ⟨colon, g⟩ := skipSpace rest
      if colon.head? = some ':' then
        let ⟨start, f⟩ := skipSpace colon.tail
        match value room start with
        | .error e => .error e
        | .ok (v, ⟨rest, k⟩) =>
          let read := setMember name v before
          let ⟨after, l⟩ := skipSpace rest
          if after.head? = some '}' then
            .ok (read, ⟨after.tail, by simp only [List.length_tail] at *; omega⟩)
          else if after.head? = some ',' then
            let ⟨next, m⟩ := skipSpace after.tail
            match members room next read with
            | .error e => .error e
            | .ok (ms, ⟨rest, n⟩) => .ok (ms, ⟨rest, by simp only [List.length_tail] at *; omega⟩)
          else .error (.fault .expectingComma after.length)
      else .error (.fault .expectingColon colon.length)
  else .error (.fault .expectingName text.length)
termination_by 2 * text.length + 1
decreasing_by
  all_goals simp only [List.length_tail] at *
  all_goals omega

end

theorem value_scalar {c : Char} (room : Nat) (rest : List Char) (quote : c ≠ '"') (bracket : c ≠ '[')
    (brace : c ≠ '{') : value room (c :: rest) = scalar (c :: rest) := by
  rw [value]
  · exact fun _ same => quote (List.cons.inj same).1
  · exact fun _ same => bracket (List.cons.inj same).1
  · exact fun _ same => brace (List.cons.inj same).1

/-- A failure in its place in the text: the position counts characters from zero, lines and columns
    count from one. -/
inductive Error where
  | syntaxError (fault : Fault) (position line column : Nat)
  | digitLimit (digits : Nat)
  | tooDeep
  deriving DecidableEq, Repr

def Error.message : Error → String
  | .syntaxError fault position line column =>
    fault.message ++ ": line " ++ toString line ++ " column " ++ toString column ++ " (char " ++
    toString position ++ ")"
  | .digitLimit digits => Text.digitLimitMessage digits
  | .tooDeep => "maximum recursion depth exceeded"

def Failure.placed (text : List Char) : Failure → Error
  | .digitLimit digits => .digitLimit digits
  | .tooDeep => .tooDeep
  | .fault f left =>
    let before := text.take (text.length - left)
    .syntaxError f before.length (before.count '\n' + 1)
      ((before.reverse.takeWhile (· != '\n')).length + 1)

def parse (room : Nat) (text : List Char) : Except Error Json :=
  if text.head? = some '\uFEFF' then .error (.syntaxError .byteOrderMark 0 1 1)
  else
    match value room (skipSpace text).1 with
    | .error e => .error (e.placed text)
    | .ok (v, rest) =>
      match skipSpace rest.1 with
      | ⟨[], _⟩ => .ok v
      | ⟨extra, _⟩ => .error (Failure.placed text (.fault .extraData extra.length))

end Gesture.Json
