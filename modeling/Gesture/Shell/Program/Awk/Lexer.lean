import Gesture.Shell.Decimal
import Gesture.Shell.Format
import Gesture.Shell.Program.Awk.Syntax

namespace Gesture.Shell.Program.Awk

inductive Token where
  | number (x : Binary64)
  | text (t : Bytes)
  | pattern (text : Bytes)
  | name (n : Bytes)
  | called (n : Bytes)
  | function (f : Function)
  | keyword (k : String)
  | sign (s : String)
  | newline
  deriving DecidableEq, Repr

def Token.shown : Token → String
  | .number x => x.text
  | .text t => "\"" ++ String.ofList t ++ "\""
  | .pattern t => "/" ++ String.ofList t ++ "/"
  | .name n | .called n => String.ofList n
  | .function _ => "function"
  | .keyword k => k
  | .sign s => s
  | .newline => "end of line"

structure Placed where
  token : Token
  line : Nat

def keywords : List String :=
  ["BEGIN", "END", "function", "func", "if", "else", "while", "for", "do", "break", "continue", "next",
    "nextfile", "exit", "return", "delete", "in", "getline", "print", "printf"]

def functions : List (String × Function) :=
  [("length", .length), ("substr", .substr), ("index", .index), ("split", .split), ("sub", .sub),
    ("gsub", .gsub), ("match", .match), ("tolower", .tolower), ("toupper", .toupper),
    ("sprintf", .sprintf), ("int", .int), ("sqrt", .sqrt), ("exp", .exp), ("log", .log),
    ("sin", .sin), ("cos", .cos), ("atan2", .atan2), ("rand", .rand), ("srand", .srand),
    ("system", .system), ("close", .close), ("fflush", .fflush)]

def signs : List String :=
  ["&&", "||", "++", "--", "+=", "-=", "*=", "/=", "%=", "^=", "==", "<=", ">=", "!=", "!~", ">>",
    "\x7b", "\x7d", "(", ")", "[", "]", ";", ",", "+", "-", "*", "/", "%", "^", "!", ">", "<", "|", "?",
    ":", "~", "$", "="]

def Token.isOperand : Token → Bool
  | .number _ | .text _ | .pattern _ | .name _ | .function _ => true
  | .sign s => s == ")" || s == "]" || s == "$" || s == "++" || s == "--"
  | _ => false

def unescaped : Nat → Bytes → Bytes
  | 0, text => text
  | _ + 1, [] => []
  | limit + 1, '\\' :: c :: rest =>
    if (Format.octalValue? c).isSome then
      let (d, after) := Format.octal 3 0 (c :: rest)
      d :: unescaped limit after
    else
      match c with
      | '"' => '"' :: unescaped limit rest
      | '\\' => '\\' :: unescaped limit rest
      | 'a' => '\x07' :: unescaped limit rest
      | 'b' => '\x08' :: unescaped limit rest
      | 'f' => '\x0c' :: unescaped limit rest
      | 'n' => '\n' :: unescaped limit rest
      | 'r' => '\r' :: unescaped limit rest
      | 't' => '\t' :: unescaped limit rest
      | 'v' => '\x0b' :: unescaped limit rest
      | '\n' => unescaped limit rest
      | c => '\\' :: c :: unescaped limit rest
  | limit + 1, c :: rest => c :: unescaped limit rest

def upTo (closing : Char) : Bytes → Option (Bytes × Bytes)
  | [] => none
  | '\\' :: c :: rest => (upTo closing rest).map fun p => ('\\' :: c :: p.1, p.2)
  | c :: rest =>
    if c == closing then some ([], rest)
    else if c == '\n' then none
    else (upTo closing rest).map fun p => (c :: p.1, p.2)

def patternText : Bool → Bytes → Option (Bytes × Bytes)
  | _, [] => none
  | inside, '\\' :: c :: rest =>
    (patternText inside rest).map fun p => ((if c == '/' then ['/'] else ['\\', c]) ++ p.1, p.2)
  | inside, c :: rest =>
    if c == '/' && !inside then some ([], rest)
    else if c == '\n' then none
    else
      let inside := if c == '[' then true else if c == ']' then false else inside
      (patternText inside rest).map fun p => (c :: p.1, p.2)

def wordToken (word rest : Bytes) : Token :=
  let text := String.ofList word
  if keywords.contains text then .keyword (if text == "func" then "function" else text)
  else
    match functions.lookup text with
    | some f => .function f
    | none => if rest.head? == some '(' then .called word else .name word

def tokensOf : Nat → Nat → Option Token → Bytes → Except (Nat × String) (List Placed)
  | 0, _, _, _ => .ok []
  | _ + 1, _, _, [] => .ok []
  | limit + 1, line, last, c :: rest => do
    let add (t : Token) (line' : Nat) (rest : Bytes) : Except (Nat × String) (List Placed) := do
      return ⟨t, line⟩ :: (← tokensOf limit line' (some t) rest)
    if c == '\n' then add .newline (line + 1) rest
    else if c == ' ' || c == '\t' || c == '\r' then tokensOf limit line last rest
    else if c == '#' then tokensOf limit line last (rest.dropWhile (· != '\n'))
    else if c == '\\' then
      match rest with
      | '\n' :: rest => tokensOf limit (line + 1) last rest
      | '\r' :: '\n' :: rest => tokensOf limit (line + 1) last rest
      | _ => throw (line, "unexpected character '\\'")
    else if c.isDigit || (c == '.' && (rest.head?.map Char.isDigit).getD false) then
      /- Digits with a point and an exponent, but nothing in another base. -/
      let text := c :: rest
      let isHexadecimal := match text with
        | '0' :: x :: _ => x == 'x' || x == 'X'
        | _ => false
      if isHexadecimal then add (.number .zero) line rest
      else
        match Decimal.scan? text with
        | some (x, after) => add (.number x) line after
        | none => add (.number .zero) line rest
    else if c.isAlpha || c == '_' then
      let word := (c :: rest).takeWhile fun d => d.isAlphanum || d == '_'
      let after := (c :: rest).drop word.length
      add (wordToken word after) line after
    else if c == '"' then
      match upTo '"' rest with
      | some (raw, after) => add (.text (unescaped raw.length raw)) line after
      | none => throw (line, "runaway string constant \"" ++ String.ofList (rest.take 10) ++ " ...")
    else if c == '/' && !(last.map Token.isOperand).getD false then
      match patternText false rest with
      | some (raw, after) => add (.pattern raw) line after
      | none =>
        throw (line, "runaway regular expression /" ++ String.ofList (rest.take 10) ++ " ...")
    else
      match signs.find? fun s => s.toList.isPrefixOf (c :: rest) with
      | some s => add (.sign s) line ((c :: rest).drop s.length)
      | none => throw (line, "unexpected character '" ++ c.toString ++ "'")

end Gesture.Shell.Program.Awk
