import Gesture.Shell.Program.Awk.Lexer

namespace Gesture.Shell.Program.Awk.Parser

structure Reader where
  rest : List Placed
  line : Nat := 1

abbrev Parse := StateT Reader (Except (Nat × String))

structure Mode where
  compares : Bool := true
  members : Bool := true

structure Inner where
  expr : Mode → Parse Expr
  unary : Mode → Parse Expr
  statement : Parse Statement

def peek? : Parse (Option Token) := do
  return (← get).rest.head?.map (·.token)

def peekSecond? : Parse (Option Token) := do
  return (← get).rest[1]?.map (·.token)

def skip : Parse Unit :=
  modify fun r => match r.rest with
    | t :: rest => { rest, line := t.line }
    | [] => r

def fail {α : Type} : Parse α := do
  let r ← get
  match r.rest with
  | t :: _ => throw (t.line, "syntax error at or near " ++ t.token.shown)
  | [] => throw (r.line + 1, "missing \x7d near end of file")

def accept (s : String) : Parse Bool := do
  if (← peek?) == some (.sign s) then
    skip
    return true
  return false

def expect (s : String) : Parse Unit := do
  if !(← accept s) then fail

def acceptWord (k : String) : Parse Bool := do
  if (← peek?) == some (.keyword k) then
    skip
    return true
  return false

def skipLines (semicolons : Bool) : Parse Unit :=
  modify fun r =>
    { r with rest := r.rest.dropWhile fun t =>
      t.token == .newline || (semicolons && t.token == .sign ";") }

def chain {α : Type} (step : α → Parse (Option α)) : Nat → α → Parse α
  | 0, a => return a
  | limit + 1, a => do
    match ← step a with
    | some b => chain step limit b
    | none => return a

def chained {α : Type} (a : α) (step : α → Parse (Option α)) : Parse α := do
  chain step ((← get).rest.length + 1) a

variable (inner : Inner)

def listUpTo (closing : String) : Parse (List Expr) := do
  skipLines false
  if ← accept closing then return []
  let first ← inner.expr {}
  let found ← chained [first] fun found => do
    skipLines false
    if ← accept "," then
      skipLines false
      return some ((← inner.expr {}) :: found)
    return none
  expect closing
  return found.reverse

def compiled (text : Bytes) : Parse Regular.Compiled := do
  match Regular.compile .escaping text with
  | .ok c => return c
  | .error e => throw ((← get).line, complaintOf e text)

def isTarget : Expr → Bool
  | .name _ | .field _ | .element .. => true
  | _ => false

def assignment? : Parse (Option (Option Operator)) := do
  match ← peek? with
  | some (.sign s) =>
    match s with
    | "=" => return some none
    | "+=" => return some (some .add)
    | "-=" => return some (some .subtract)
    | "*=" => return some (some .multiply)
    | "/=" => return some (some .divide)
    | "%=" => return some (some .modulo)
    | "^=" => return some (some .power)
    | _ => return none
  | _ => return none

def readTarget? : Parse (Option Expr) := do
  match ← peek? with
  | some (.sign "$") =>
    skip
    return some (.field (← inner.unary {}))
  | some (.name n) =>
    skip
    if ← accept "[" then return some (.element n (← listUpTo inner "]"))
    return some (.name n)
  | _ => return none

def application (f : Function) : Parse Expr := do
  if ← accept "(" then return .apply f (← listUpTo inner ")")
  if f == .length then return .apply f []
  fail

def atom : Parse Expr := do
  match ← peek? with
  | some (.number x) => skip; return .number x
  | some (.text t) => skip; return .text t
  | some (.pattern t) => skip; return .pattern (← compiled t)
  | some (.function f) => skip; application inner f
  | some (.called n) =>
    skip
    expect "("
    return .call n (← listUpTo inner ")")
  | some (.name n) =>
    skip
    if ← accept "[" then return .element n (← listUpTo inner "]")
    return .name n
  | some (.sign "$") =>
    skip
    match ← peek? with
    | some (.sign "++") | some (.sign "--") | some (.sign "-") | some (.sign "+")
    | some (.sign "!") => return .field (← inner.unary {})
    | some (.sign "$") => return .field (← inner.unary { members := false })
    | some (.number x) => skip; return .field (.number x)
    | some (.name n) =>
      skip
      if ← accept "[" then return .field (.element n (← listUpTo inner "]"))
      return .field (.name n)
    | some (.sign "(") =>
      skip
      let e ← inner.expr {}
      expect ")"
      return .field e
    | some (.function f) => skip; return .field (← application inner f)
    | some (.called _) => return .field (← inner.unary {})
    | _ => fail
  | some (.sign "(") =>
    skip
    let found ← listUpTo inner ")"
    match found with
    | [e] => return e
    | [] => fail
    | many =>
      if ← acceptWord "in" then
        match ← peek? with
        | some (.name n) => skip; return .member many n
        | _ => fail
      fail
  | some (.keyword "getline") =>
    skip
    let target ← readTarget? inner
    if ← accept "<" then return .getline target (.file (← inner.unary { members := false }))
    return .getline target .input
  | _ => fail

def counted (mode : Mode) : Parse Expr := do
  let e ← atom inner
  let e ←
    if isTarget e then
      match ← peek? with
      | some (.sign "++") => skip; pure (.count true true e)
      | some (.sign "--") => skip; pure (.count true false e)
      | _ =>
        match ← assignment? with
        | some operator =>
          skip
          skipLines false
          pure (.assign operator e (← inner.expr mode))
        | none => pure e
    else pure e
  chained e fun e => do
    if (← peek?) == some (.sign "|") && (← peekSecond?) == some (.keyword "getline") then
      skip
      skip
      return some (.getline (← readTarget? inner) (.command e))
    return none

def powers (mode : Mode) : Parse Expr := do
  let base ← counted inner mode
  if ← accept "^" then return .arithmetic .power base (← inner.unary mode)
  return base

def unary (mode : Mode) : Parse Expr := do
  match ← peek? with
  | some (.sign "!") => skip; return .not (← inner.unary mode)
  | some (.sign "-") => skip; return .negative (← inner.unary mode)
  | some (.sign "+") => skip; return .positive (← inner.unary mode)
  | some (.sign "++") => skip; return .count false true (← inner.unary mode)
  | some (.sign "--") => skip; return .count false false (← inner.unary mode)
  | _ => powers inner mode

def products (mode : Mode) : Parse Expr := do
  chained (← unary inner mode) fun left => do
    match ← peek? with
    | some (.sign "*") => skip; return some (.arithmetic .multiply left (← unary inner mode))
    | some (.sign "/") => skip; return some (.arithmetic .divide left (← unary inner mode))
    | some (.sign "%") => skip; return some (.arithmetic .modulo left (← unary inner mode))
    | _ => return none

def sums (mode : Mode) : Parse Expr := do
  chained (← products inner mode) fun left => do
    match ← peek? with
    | some (.sign "+") => skip; return some (.arithmetic .add left (← products inner mode))
    | some (.sign "-") => skip; return some (.arithmetic .subtract left (← products inner mode))
    | _ => return none

def startsOperand : Token → Bool
  | .number _ | .text _ | .pattern _ | .name _ | .called _ | .function _ => true
  | .sign s => s == "$" || s == "!" || s == "(" || s == "++" || s == "--" || s == "-" || s == "+"
  | _ => false

def concats (mode : Mode) : Parse Expr := do
  chained (← sums inner mode) fun left => do
    match ← peek? with
    | some t => if startsOperand t then return some (.concat left (← sums inner mode)) else return none
    | none => return none

def relation? (mode : Mode) : Option Token → Option Relation
  | some (.sign s) =>
    match s with
    | "<" => some .less
    | "<=" => some .lessEqual
    | "==" => some .equal
    | "!=" => some .notEqual
    | ">=" => some .greaterEqual
    | ">" => if mode.compares then some .greater else none
    | _ => none
  | _ => none

def relations (mode : Mode) : Parse Expr := do
  chained (← concats inner mode) fun left => do
    match relation? mode (← peek?) with
    | some r => skip; return some (.compare r left (← concats inner mode))
    | none => return none

def matchings (mode : Mode) : Parse Expr := do
  chained (← relations inner mode) fun left => do
    match ← peek? with
    | some (.sign "~") => skip; return some (.matching false left (← relations inner mode))
    | some (.sign "!~") => skip; return some (.matching true left (← relations inner mode))
    | _ => return none

def memberships (mode : Mode) : Parse Expr := do
  chained (← matchings inner mode) fun left => do
    if mode.members && (← acceptWord "in") then
      match ← peek? with
      | some (.name n) => skip; return some (.member [left] n)
      | _ => fail
    return none

def conjunctions (mode : Mode) : Parse Expr := do
  chained (← memberships inner mode) fun left => do
    if ← accept "&&" then
      skipLines false
      return some (.both left (← memberships inner mode))
    return none

def disjunctions (mode : Mode) : Parse Expr := do
  chained (← conjunctions inner mode) fun left => do
    if ← accept "||" then
      skipLines false
      return some (.either left (← conjunctions inner mode))
    return none

def expr (mode : Mode) : Parse Expr := do
  let condition ← disjunctions inner mode
  if ← accept "?" then
    skipLines false
    let first ← inner.expr mode
    skipLines false
    expect ":"
    skipLines false
    return .choose condition first (← inner.expr mode)
  return condition

def isEnd : Option Token → Bool
  | none => true
  | some .newline => true
  | some (.sign s) => s == ";" || s == "\x7d"
  | _ => false

def endStatement : Parse Unit := do
  match ← peek? with
  | some .newline | some (.sign ";") =>
    skip
    skipLines false
  | some (.sign "\x7d") => pure ()
  | _ => fail

def way? : Option Token → Option Way
  | some (.sign ">") => some .write
  | some (.sign ">>") => some .append
  | some (.sign "|") => some .pipe
  | _ => none

def printed : Parse (List Expr) := do
  let next ← peek?
  if isEnd next || (way? next).isSome then return []
  let start ← get
  /- A list in parentheses is the whole list only if nothing goes on after it. -/
  let whole? : Option (List Expr) ←
    if ← accept "(" then
      let found ← listUpTo inner ")"
      let after ← peek?
      pure (if isEnd after || (way? after).isSome then some found else none)
    else pure none
  match whole? with
  | some found => return found
  | none =>
    set start
    let mode : Mode := { compares := false }
    let first ← inner.expr mode
    let found ← chained [first] fun found => do
      if ← accept "," then
        skipLines false
        return some ((← inner.expr mode) :: found)
      return none
    return found.reverse

def printTarget? : Parse (Option (Way × Expr)) := do
  match way? (← peek?) with
  | some w =>
    skip
    return some (w, ← concats inner { compares := false })
  | none => return none

def simple : Parse Statement := do
  match ← peek? with
  | some (.keyword "print") =>
    skip
    let arguments ← printed inner
    return .print arguments (← printTarget? inner)
  | some (.keyword "printf") =>
    skip
    let arguments ← printed inner
    return .printf arguments (← printTarget? inner)
  | some (.keyword "next") => skip; return .next
  | some (.keyword "nextfile") => skip; return .nextFile
  | some (.keyword "break") => skip; return .break
  | some (.keyword "continue") => skip; return .continue
  | some (.keyword "exit") =>
    skip
    if isEnd (← peek?) then return .exit none
    return .exit (some (← inner.expr {}))
  | some (.keyword "return") =>
    skip
    if isEnd (← peek?) then return .return none
    return .return (some (← inner.expr {}))
  | some (.keyword "delete") =>
    skip
    match ← peek? with
    | some (.name n) =>
      skip
      if ← accept "[" then return .delete n (some (← listUpTo inner "]"))
      return .delete n none
    | _ => fail
  | _ => return .expression (← inner.expr {})

def block : Parse Statement := do
  expect "\x7b"
  skipLines true
  let found ← chained [] fun found => do
    if (← peek?) == some (.sign "\x7d") then return none
    let s ← inner.statement
    skipLines true
    return some (s :: found)
  expect "\x7d"
  return .block found.reverse

def body : Parse Statement := do
  skipLines false
  if ← accept ";" then return .nothing
  inner.statement

def statement : Parse Statement := do
  match ← peek? with
  | some (.sign "\x7b") => block inner
  | some (.sign ";") => skip; return .nothing
  | some (.keyword "if") =>
    skip
    expect "("
    let condition ← inner.expr {}
    expect ")"
    let first ← body inner
    let start ← get
    skipLines true
    if ← acceptWord "else" then return .conditional condition first (some (← body inner))
    set start
    return .conditional condition first none
  | some (.keyword "while") =>
    skip
    expect "("
    let condition ← inner.expr {}
    expect ")"
    return .while condition (← body inner)
  | some (.keyword "do") =>
    skip
    let b ← body inner
    skipLines true
    if !(← acceptWord "while") then fail
    expect "("
    let condition ← inner.expr {}
    expect ")"
    endStatement
    return .doWhile b condition
  | some (.keyword "for") =>
    skip
    expect "("
    let r ← get
    match r.rest with
    | ⟨.name n, _⟩ :: ⟨.keyword "in", _⟩ :: ⟨.name a, _⟩ :: ⟨.sign ")", line⟩ :: rest =>
      set ({ rest, line } : Reader)
      return .forEach n a (← body inner)
    | _ =>
      let first ← if ← accept ";" then pure Statement.nothing else do
        let s ← simple inner
        expect ";"
        pure s
      skipLines false
      let condition : Option Expr ← if ← accept ";" then pure none else do
        let e ← inner.expr {}
        expect ";"
        pure (some e)
      skipLines false
      let last ← if ← accept ")" then pure Statement.nothing else do
        let s ← simple inner
        expect ")"
        pure s
      return .loop first condition last (← body inner)
  | _ =>
    let s ← simple inner
    endStatement
    return s

def level : Nat → Inner
  | 0 => { expr := fun _ => fail, unary := fun _ => fail, statement := fail }
  | limit + 1 =>
    let inner := level limit
    { expr := expr inner, unary := unary inner, statement := statement inner }

def whole : Inner := level 1000

def parameters : Parse (List Bytes) := do
  let step (found : List Bytes) : Parse (Option (List Bytes)) := do
    skipLines false
    match ← peek? with
    | some (.name n) =>
      skip
      let _ ← accept ","
      return some (n :: found)
    | _ => return none
  let found ← chained [] step
  expect ")"
  return found.reverse

def item (s : Script) : Parse Script := do
  match ← peek? with
  | some (.keyword "BEGIN") =>
    skip
    return { s with begins := (← block whole) :: s.begins }
  | some (.keyword "END") =>
    skip
    return { s with ends := (← block whole) :: s.ends }
  | some (.keyword "function") =>
    skip
    match ← peek? with
    | some (.name n) | some (.called n) =>
      skip
      expect "("
      let ps ← parameters
      skipLines false
      return { s with functions := (n, ⟨ps, ← block whole⟩) :: s.functions }
    | _ => fail
  | some (.sign "\x7b") =>
    return { s with rules := ⟨.always, some (← block whole)⟩ :: s.rules }
  | _ =>
    let first ← whole.expr {}
    let condition : Condition ←
      if ← accept "," then
        skipLines false
        pure (.range first (← whole.expr {}))
      else pure (.when first)
    if (← peek?) == some (.sign "\x7b") then
      return { s with rules := ⟨condition, some (← block whole)⟩ :: s.rules }
    return { s with rules := ⟨condition, none⟩ :: s.rules }

def items : Parse Script := do
  skipLines true
  let s ← chained (⟨[], [], [], []⟩ : Script) fun s => do
    if (← get).rest.isEmpty then return none
    let s ← item s
    skipLines true
    return some s
  return ⟨s.begins.reverse, s.rules.reverse, s.ends.reverse, s.functions⟩

def scriptOf (text : Bytes) : Except (Nat × String) Script := do
  let tokens ← tokensOf (text.length + 1) 1 none text
  let (s, _) ← items.run { rest := tokens }
  let missing := tokens.findSome? fun t => match t.token with
    | .called n => if (s.functions.lookup n).isSome then none else some n
    | _ => none
  match missing with
  | some n =>
    throw (text.countP (· == '\n') + 2, "function " ++ String.ofList n ++ " never defined")
  | none => return s

end Gesture.Shell.Program.Awk.Parser
