import Gesture.Shell.Lexer

namespace Gesture.Shell

namespace Parser

open Lexer

def specialBuiltins : List String :=
  [".", ":", "break", "continue", "eval", "exec", "exit", "export", "readonly", "return", "set",
    "shift", "times", "trap", "unset"]

inductive Place where
  | line
  | required
  | optional
  deriving DecidableEq, Repr

abbrev Lists := Place → Parse Script

structure Level where
  nested : Nested
  lists : Lists

namespace Level

def unexpected {α : Type} : Parse α := do
  throw (.unexpected (← get).token)

variable (level : Level)

/-- A list that has to be there. It is empty only at the end of the text, where what should come
    after it is missing too. -/
def body : Parse Command := do
  return (← level.lists .required).getD (.sequence [])

def commandStart (newlines : Bool) : Expected :=
  { newlines, keywords := true, aliases := true }

def token (expected : Expected) : Parse Token :=
  Lexer.token level.nested expected

def need (t : Token) (expected : Expected) : Parse Unit := do
  let found ← level.token expected
  if found != t then throw (.missing t found)

def needWord (expected : Expected) : Parse Unit := do
  if (← level.token expected) != .word then unexpected

def redirection : Parse Redirection := do
  let r ← get
  let delimiter := match r.sign with
    | .document _ => true
    | _ => false
  level.needWord { delimiter }
  match r.sign with
  | .file opening => return .file r.descriptor opening (← get).word
  | .copy => return .copy r.descriptor (← get).word
  | .document indented =>
    modifyGet fun now =>
      let number := now.documents.size
      let awaited : Awaited :=
        ⟨number, now.word.characters, !now.wordQuoted, indented⟩
      (.document r.descriptor number,
        { now with documents := now.documents.push [], awaited := now.awaited ++ [awaited] })

def redirections : Parse (List Redirection) :=
  repeating [] fun before => do
    match ← level.token (commandStart false) with
    | .redirection => return .inl ((← level.redirection) :: before)
    | _ =>
      pushBack
      return .inr before.reverse

structure Simple where
  assignments : List Word := []
  words : List Word := []
  redirections : List Redirection := []

inductive Start where
  | command (c : Command)
  | function (name : Bytes)

def functionName (word : Word) : Parse Bytes := do
  level.need .close {}
  match word.plain? with
  | some name =>
    if isName name && !specialBuiltins.contains (String.ofList name) then return name
    else throw .badFunctionName
  | none => throw .badFunctionName

def simple : Parse Start := do
  let line := (← get).lineNumber
  repeating ({} : Simple) fun s => do
    match ← level.token { aliases := s.words.isEmpty } with
    | .word =>
      let word := (← get).word
      if s.words.isEmpty && word.isAssignment then
        return .inl { s with assignments := word :: s.assignments }
      else return .inl { s with words := word :: s.words }
    | .redirection =>
      let r ← level.redirection
      return .inl { s with redirections := r :: s.redirections }
    | t =>
      match t, s with
      | .open, ⟨[], [word], []⟩ => return .inr (.function (← level.functionName word))
      | _, _ =>
        pushBack
        return .inr (.command
          (.simple line s.assignments.reverse s.words.reverse s.redirections.reverse))

def branch : Parse Command := do
  let arms ← repeating ([] : List (Command × Command)) fun before => do
    let test ← level.body
    level.need (.keyword .then) {}
    let yes ← level.body
    match ← level.token {} with
    | .keyword .elif => return .inl ((test, yes) :: before)
    | _ =>
      pushBack
      return .inr ((test, yes) :: before)
  let last ← match ← level.token {} with
    | .keyword .else => some <$> level.body
    | _ =>
      pushBack
      pure none
  match arms.foldl (fun no (test, yes) => some (.branch test yes no)) last with
  | some c => return c
  | none => unexpected

def loop (untilSuccess : Bool) : Parse Command := do
  let test ← level.body
  level.need (.keyword .do) {}
  return .loop untilSuccess test (← level.body)

def everyArgument : Word :=
  [.quote, .parameter ['@'] .value false [], .quote]

def each (line : Nat) : Parse Command := do
  let t ← level.token {}
  let r ← get
  let name ← match t, r.word.plain? with
    | .word, some name =>
      if isName name && !r.wordQuoted then pure name else throw .badLoopVariable
    | _, _ => throw .badLoopVariable
  let words ← match ← level.token (commandStart true) with
    | .keyword .in =>
      repeating [] fun before => do
        match ← level.token {} with
        | .word => return .inl ((← get).word :: before)
        | .newline | .semicolon => return .inr before.reverse
        | _ => unexpected
    | t =>
      if t != .semicolon then pushBack
      pure [everyArgument]
  level.need (.keyword .do) (commandStart true)
  return .each line name words (← level.body)

def patterns : Parse (List Word) :=
  repeating [] fun before => do
    let word := (← get).word
    match ← level.token {} with
    | .pipe =>
      let _ ← level.token {}
      return .inl (word :: before)
    | .close => return .inr (word :: before).reverse
    | t => throw (.missing .close t)

def choose (line : Nat) : Parse Command := do
  level.need .word {}
  let subject := (← get).word
  level.need (.keyword .in) (commandStart true)
  let start : Expected := { newlines := true, keywords := true }
  let choices ← repeating [] fun before => do
    match ← level.token start with
    | .keyword .esac => return .inr before.reverse
    | t =>
      if t == .open then
        let _ ← level.token {}
      let patterns ← level.patterns
      let choices := .mk patterns (← level.lists .optional) :: before
      match ← level.token start with
      | .keyword .esac => return .inr choices.reverse
      | .choiceEnd => return .inl choices
      | t => throw (.missing .choiceEnd t)
  return .choose line subject choices

def withRedirections (line : Nat) (c : Command) : Parse Command := do
  match ← level.redirections, c with
  | [], c => return c
  | redirections, .subshell line body _ => return .subshell line body redirections
  | redirections, c => return .redirected line c redirections

def compound? (line : Nat) : Token → Parse (Option Command)
  | .keyword .if => some <$> closed level.branch (.keyword .fi)
  | .keyword .while => some <$> closed (level.loop false) (.keyword .done)
  | .keyword .until => some <$> closed (level.loop true) (.keyword .done)
  | .keyword .for => some <$> closed (level.each line) (.keyword .done)
  | .keyword .case => some <$> (level.choose line >>= level.withRedirections line)
  | .keyword .open => some <$> closed level.body (.keyword .close)
  | .open => some <$> closed (return .subshell line (← level.body) []) .close
  | _ => return none
where
  closed (read : Parse Command) (t : Token) : Parse Command := do
    let c ← read
    level.need t {}
    level.withRedirections line c

def command (newlines : Bool) : Parse Command := do
  let (heads, c) ← repeating (([] : List (Nat × Bytes)), newlines) fun (heads, newlines) => do
    let line := (← get).lineNumber
    let t ← level.token (commandStart newlines)
    match ← level.compound? line t with
    | some c => return .inr (heads, c)
    | none =>
      if t != .word && t != .redirection then unexpected
      pushBack
      match ← level.simple with
      | .function name => return .inl (((← get).lineNumber, name) :: heads, true)
      | .command c => return .inr (heads, c)
  return heads.foldl (fun c (line, name) => .define line name c) c

def pipeline (newlines : Bool) : Parse Command := do
  let negated := (← level.token (commandStart newlines)) == .keyword .not
  if !negated then pushBack
  let first ← level.command false
  let commands ← repeating [first] fun before => do
    match ← level.token {} with
    | .pipe => return .inl ((← level.command true) :: before)
    | _ =>
      pushBack
      return .inr before.reverse
  let c := match commands with
    | [c] => c
    | cs => .pipeline cs false
  return if negated then .negation c else c

def chain : Parse Command := do
  let first ← level.pipeline false
  repeating first fun left => do
    match ← level.token {} with
    | .both => return .inl (.both left (← level.pipeline true))
    | .either => return .inl (.either left (← level.pipeline true))
    | _ =>
      pushBack
      return .inr left

def inBackground (line : Nat) : Command → Command
  | .pipeline commands _ => .pipeline commands true
  | .redirected line body redirections => .background line body redirections
  | c => .background line c []

def joined : List Command → Script
  | [] => none
  | [c] => some c
  | commands => some (.sequence commands)

def list (place : Place) : Parse Script :=
  repeating (([] : List Command), place == .optional) fun (before, mayEnd) => do
    let finish (commands : List Command) : Parse (List Command × Bool ⊕ Script) :=
      return .inr (joined commands.reverse)
    let another (commands : List Command) : Parse (List Command × Bool ⊕ Script) :=
      return .inl (commands, place != .line)
    let atEnd (commands : List Command) : Parse (List Command × Bool ⊕ Script) := do
      readDocuments level.nested
      pushBack
      finish commands
    match ← level.token (commandStart (place != .line)) with
    | .newline =>
      readDocuments level.nested
      finish before
    | .ending => atEnd before
    | t =>
      pushBack
      if mayEnd && t.endsList then finish before
      else
        let line := (← get).lineNumber
        let c ← level.chain
        match ← level.token {} with
        | .background => another (inBackground line c :: before)
        | .semicolon => another (c :: before)
        | .newline =>
          pushBack
          another (c :: before)
        | .ending => atEnd (c :: before)
        | _ =>
          if place == .line then unexpected
          pushBack
          finish (c :: before)

end Level

def bottom : Level :=
  ⟨⟨throw .tooDeep, fun _ => throw .tooDeep⟩, fun _ => throw .tooDeep⟩

def level : Nat → Level
  | 0 => bottom
  | depth + 1 =>
    let inner := level depth
    let nested : Nested := ⟨inner.lists .optional, enclosed inner.nested⟩
    ⟨nested, fun place => Level.list ⟨inner.nested, inner.lists⟩ place⟩

def deepest : Level := level 1000

inductive Line where
  | ending
  | script (s : Script)

def line : Parse Line := do
  modify fun r => { r with again := false, awaited := [] }
  let script ← deepest.lists .line
  let r ← get
  if script.isNone && r.again && r.token == .ending then return .ending
  else return .script script

def isAtEnd : Parse Bool := do
  return (← get).sources.all (·.text.isEmpty)

end Parser

end Gesture.Shell
