import Gesture.Shell.Program.Basic
import Gesture.Shell.Regular

namespace Gesture.Shell.Program

namespace Expression

inductive Value where
  | number (n : Int)
  | text (t : Bytes)
  deriving DecidableEq, Repr

def Value.shown : Value → Bytes
  | .number n => Number.shown n
  | .text t => t

def integer? (text : Bytes) : Option Int :=
  let (negative, digits) := match text with
    | '-' :: rest => (true, rest)
    | rest => (false, rest)
  if digits.isEmpty || !digits.all Char.isDigit then none
  else
    let n : Int := Text.decimalValue digits
    some (if negative then -n else n)

def Value.integer? : Value → Option Int
  | .number n => some n
  | .text t => Expression.integer? t

def Value.isNull : Value → Bool
  | .number n => n == 0
  | .text t =>
    let digits := match t with
      | '-' :: rest => rest
      | rest => rest
    t.isEmpty || (!digits.isEmpty && digits.all (· == '0'))

structure State where
  rest : List Bytes
  latest : Bytes := []

abbrev Eval := StateT State (Except String)

def next? : Eval (Option Bytes) := do
  return (← get).rest.head?

def skip : Eval Unit :=
  modify fun s => ⟨s.rest.tail, s.rest.headD []⟩

def take : Eval Bytes := do
  match ← next? with
  | some token =>
    skip
    return token
  | none =>
    throw ("syntax error: missing argument after " ++ inRoundQuotes (← get).latest)

def level? (operator : Bytes) : Option Nat :=
  match String.ofList operator with
  | "|" => some 0
  | "&" => some 1
  | "<" | "<=" | "=" | "==" | "!=" | ">=" | ">" => some 2
  | "+" | "-" => some 3
  | "*" | "/" | "%" => some 4
  | ":" => some 5
  | _ => none

def truth (b : Bool) : Value :=
  .number (if b then 1 else 0)

/-- The part of a text that an expression matches: that of the first group if there is one, and
    otherwise the length. -/
def matched (text pattern : Bytes) : Except String Value :=
  match Regular.compile .basic (Regular.wide pattern) with
  | .error e => .error e.message
  | .ok compiled =>
    let subject : Regular.Subject := { text := (Regular.wide text).toArray, isWide := true }
    match Regular.matchAt? compiled.expr subject 0 with
    | none => .ok (if compiled.groups = 0 then .number 0 else .text [])
    | some s =>
      if compiled.groups = 0 then .ok (.number s.place)
      else
        match s.groups.lookup 1 with
        | some (first, last) =>
          .ok (.text (Regular.narrow ((subject.text.toList.take last).drop first)))
        | none => .ok (.text [])

def compareValues (operator : Bytes) (a b : Value) : Value :=
  let order := match a.integer?, b.integer? with
    | some m, some n => compare m n
    | _, _ => compare a.shown b.shown
  truth (match String.ofList operator with
    | "<" => order == .lt
    | "<=" => order != .gt
    | "=" | "==" => order == .eq
    | "!=" => order != .eq
    | ">=" => order != .lt
    | _ => order == .gt)

def apply (operator : Bytes) (a b : Value) : Except String Value := do
  match String.ofList operator with
  | "|" => return if !a.isNull then a else if !b.isNull then b else .number 0
  | "&" => return if a.isNull || b.isNull then .number 0 else a
  | ":" => matched a.shown b.shown
  | name =>
    if level? operator == some 2 then return compareValues operator a b
    match a.integer?, b.integer? with
    | some m, some n =>
      match name with
      | "+" => return .number (m + n)
      | "-" => return .number (m - n)
      | "*" => return .number (m * n)
      | _ =>
        if n = 0 then throw "division by zero"
        return .number (if name == "/" then m.tdiv n else m.tmod n)
    | _, _ => throw "non-integer argument"

def part (text : Bytes) (place count : Value) : Bytes :=
  match place.integer?, count.integer? with
  | some p, some n =>
    if p ≤ 0 ∨ n ≤ 0 then []
    else Regular.narrow (((Regular.wide text).drop (p.toNat - 1)).take n.toNat)
  | _, _ => []

/-- The place of the first character of a text that is one of some others; zero if there is none. -/
def index (text chars : Bytes) : Nat :=
  let wanted := Regular.wide chars
  match (Regular.wide text).findIdx? wanted.contains with
  | some i => i + 1
  | none => 0

/-- The value of the operators of a level and of those that bind tighter, after a left value if there
    is one. What is not needed is read, but not worked out; `limit` bounds how deep the expression
    is. -/
def value : Nat → Nat → Bool → Option Value → Eval Value
  | 0, _, _, _ => throw "syntax error"
  | limit + 1, level, needed, some left => do
    match ← next? with
    | some operator =>
      if level? operator != some level then return left
      skip
      let isNeeded :=
        if operator == ['|'] then needed && left.isNull
        else if operator == ['&'] then needed && !left.isNull
        else needed
      let right ← value limit (level + 1) isNeeded none
      let result ←
        if isNeeded || (needed && level < 2) then StateT.lift (apply operator left right)
        else pure left
      value limit level needed (some result)
    | none => return left
  | limit + 1, level, needed, none => do
    if level < 6 then
      let left ← value limit (level + 1) needed none
      value limit level needed (some left)
    else
      let operand : Eval Value := value limit 6 needed none
      let token ← take
      match String.ofList token with
      | "(" =>
        let inner ← value limit 0 needed none
        match ← next? with
        | some [')'] =>
          skip
          return inner
        | some other =>
          throw ("syntax error: expecting ')' instead of " ++ inRoundQuotes other)
        | none =>
          throw ("syntax error: expecting ')' after " ++ inRoundQuotes (← get).latest)
      | ")" => throw "syntax error: unexpected ')'"
      | "+" => return .text (← take)
      | "length" => return .number (Regular.wide (← operand).shown).length
      | "match" =>
        let text ← operand
        let pattern ← operand
        if needed then StateT.lift (matched text.shown pattern.shown) else return text
      | "index" =>
        let text ← operand
        let chars ← operand
        return .number (index text.shown chars.shown)
      | "substr" =>
        let text ← operand
        let place ← operand
        let count ← operand
        return .text (part text.shown place count)
      | _ => return .text token

def ofArguments (arguments : List Bytes) : Except String Value := do
  let (v, s) ← value (20 * arguments.length + 20) 0 true none ⟨arguments, []⟩
  match s.rest with
  | [] => return v
  | extra :: _ => throw ("syntax error: unexpected argument " ++ inRoundQuotes extra)

end Expression

def expr (arguments : List Bytes) : Run Nat := do
  let arguments := if arguments.head? == some ['-', '-'] then arguments.tail else arguments
  if arguments.isEmpty then misuse 2 "missing operand"
  else
    match Expression.ofArguments arguments with
    | .error message => refuse 2 message
    | .ok v =>
      emitLine v.shown
      return if v.isNull then 1 else 0

namespace Sequence

structure Decimal where
  mantissa : Int
  places : Nat
  width : Nat
  deriving DecidableEq, Repr

def decimal? (text : Bytes) : Option Decimal :=
  let body := text.dropWhile Number.isBlank
  let (negative, body) := match body with
    | '-' :: rest => (true, rest)
    | '+' :: rest => (false, rest)
    | rest => (false, rest)
  let sign : Int := if negative then -1 else 1
  let s := Number.scan true body
  let isHexadecimal := match body with
    | '0' :: x :: _ => x == 'x' || x == 'X'
    | _ => false
  if isHexadecimal then
    if s.rest.isEmpty && s.found then some ⟨sign * s.value, 0, (Number.shown s.value).length⟩ else none
  else
    let whole := body.takeWhile Char.isDigit
    let rest := body.drop whole.length
    let (fraction, after) := match rest with
      | '.' :: more => (more.takeWhile Char.isDigit, more.dropWhile Char.isDigit)
      | rest => ([], rest)
    if whole.isEmpty && fraction.isEmpty then none
    else
      let (e, after) := Decimal.exponent after
      if !after.isEmpty || 400 < e.natAbs then none
      else
        let digits : Int := Text.decimalValue (whole ++ fraction)
        let places := (fraction.length : Int) - e
        let mantissa := sign * digits * Nat.pow 10 (-places).toNat
        let width := max whole.length 1 + (if negative then 1 else 0) +
          (if fraction.isEmpty then 0 else fraction.length + 1)
        some ⟨mantissa, places.toNat, width⟩

def Decimal.scaled (d : Decimal) (places : Nat) : Int :=
  d.mantissa * Nat.pow 10 (places - d.places)

def written (places width : Nat) (n : Int) : Bytes :=
  let digits := Shell.Decimal.withPoint false places (Number.shown n.natAbs)
  let sign := if n < 0 then ['-'] else []
  sign ++ List.replicate (width - digits.length - sign.length) '0' ++ digits

structure Plan where
  first : Int
  step : Int
  count : Nat
  scale : Nat
  places : Nat
  width : Nat

def Plan.at (p : Plan) (i : Nat) : Int :=
  p.first + p.step * i

def planOf (first step last : Decimal) (endless equalWidth : Bool) : Plan :=
  let places := max first.places step.places
  let fine := max places last.places
  let start := first.scaled fine
  let delta := step.scaled fine
  let ending := last.scaled fine
  let span := if 0 < delta then ending - start else start - ending
  let count := if endless then 1000000000 else
    if span < 0 then 0 else (span / delta.natAbs).toNat + 1
  let wide (d : Decimal) : Nat :=
    let whole := d.width - (if d.places = 0 then 0 else d.places + 1)
    whole + (if places = 0 then 0 else places + 1)
  { first := first.scaled places
    step := step.scaled places
    count
    scale := Nat.pow 10 places
    places
    width := if equalWidth then max (wide first) (wide last) else 0 }

def splitOptions (arguments : List Bytes) : List Bytes × List Bytes :=
  let isNumber (a : Bytes) : Bool := match a with
    | '-' :: c :: _ => c.isDigit || c == '.'
    | _ => false
  match arguments.findIdx? isNumber with
  | some i => (arguments.take i, arguments.drop i)
  | none => (arguments, [])

def formatError? (format : Bytes) : Option String :=
  let plain := (String.ofList format).replace "%%" ""
  let directive := plain.toList.dropWhile (· != '%')
  match directive with
  | [] => some ("format " ++ inRoundQuotes format ++ " has no % directive")
  | _ :: rest =>
    match rest.dropWhile fun c => c.isDigit || "-+#0 '.".toList.contains c with
    | [] => some ("format " ++ inRoundQuotes format ++ " ends in %")
    | c :: more =>
      if !"aAeEfFgG".toList.contains c then
        some ("format " ++ inRoundQuotes format ++ " has unknown %" ++ c.toString ++ " directive")
      else if more.contains '%' then
        some ("format " ++ inRoundQuotes format ++ " has too many % directives")
      else none

end Sequence

open Sequence in
def seq (arguments : List Bytes) : Run Nat :=
  let long := [("separator", 's'), ("format", 'f'), ("equal-width", 'w')]
  let (front, numbers) := splitOptions arguments
  withOptions "s:f:w" long true 1 front fun o => do
    let operands := o.rest ++ numbers
    let separator := (o.last? 's').getD ['\n']
    let isInfinite (a : Bytes) : Bool :=
      ["inf", "+inf", "infinity"].contains (String.ofList (a.map Char.toLower))
    let wrong := operands.find? fun a => (decimal? a).isNone && !isInfinite a
    match operands, wrong, (o.last? 'f').bind formatError? with
    | [], _, _ => misuse 1 "missing operand"
    | _ :: _ :: _ :: extra :: _, _, _ => misuse 1 ("extra operand " ++ inRoundQuotes extra)
    | _, _, some message => refuse 1 message
    | _, some a, _ => misuse 1 ("invalid floating point argument: " ++ inRoundQuotes a)
    | _, none, none =>
      let one : Decimal := ⟨1, 0, 1⟩
      let number (a : Bytes) : Decimal := (decimal? a).getD one
      let (first, step, last) := match operands with
        | [last] => (one, one, last)
        | [first, last] => (number first, one, last)
        | first :: step :: last :: _ => (number first, number step, last)
        | [] => (one, one, [])
      if step.mantissa = 0 then
        misuse 1 ("invalid Zero increment value: " ++ inRoundQuotes (operands[1]?.getD []))
      else
        let plan := planOf first step (number last) (isInfinite last) (o.has 'w')
        let line (i : Nat) : Bytes :=
          let plain := written plan.places plan.width (plan.at i)
          match o.last? 'f' with
          | some format => (Format.printf [format, plain]).text
          | none => plain
        /- The numbers are written in pieces, each of which is a step. -/
        let size := 500
        iterate .stalled
          (fun (start : Nat) => do
            if plan.count ≤ start then return .inr ()
            Run.step
            let count := min size (plan.count - start)
            let piece := (List.range count).flatMap fun i =>
              (if start + i = 0 then [] else separator) ++ line (start + i)
            emit piece
            return .inl (start + count))
          1000000 0
        if plan.count ≠ 0 then emit ['\n']
        return 0

end Gesture.Shell.Program
