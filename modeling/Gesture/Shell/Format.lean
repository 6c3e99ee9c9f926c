import Gesture.Shell.Decimal

namespace Gesture.Shell.Format

def octalValue? (c : Char) : Option Nat :=
  if '0' ≤ c ∧ c ≤ '7' then some (c.toNat - 0x30) else none

def octal : Nat → Nat → List Char → Char × List Char
  | 0, value, text => (Char.ofNat (value % 256), text)
  | count + 1, value, text =>
    match text with
    | [] => (Char.ofNat (value % 256), [])
    | c :: rest =>
      match octalValue? c with
      | some digit => octal count (value * 8 + digit) rest
      | none => (Char.ofNat (value % 256), c :: rest)

def letterEscape? : Char → Option Char
  | '\\' => some '\\'
  | 'a' => some '\x07'
  | 'b' => some '\x08'
  | 'e' => some '\x1b'
  | 'f' => some '\x0c'
  | 'n' => some '\n'
  | 'r' => some '\r'
  | 't' => some '\t'
  | 'v' => some '\x0b'
  | _ => none

/-- The character that a backslash before the text stands for, and the text after it. A backslash
    that starts no escape is itself. -/
def escape : List Char → Char × List Char
  | [] => ('\\', [])
  | c :: rest =>
    match letterEscape? c with
    | some e => (e, rest)
    | none => if (octalValue? c).isSome then octal 3 0 (c :: rest) else ('\\', c :: rest)

def argumentEscape : List Char → Char × List Char
  | '0' :: rest => octal 3 0 rest
  | text => escape text

/-- An argument with its escapes replaced, and whether the escape that ends all output was met. The
    text has at most `count` characters; `before` is reversed. -/
def unescape : Nat → List Char → List Char → List Char × Bool
  | 0, before, _ => (before.reverse, false)
  | _ + 1, before, [] => (before.reverse, false)
  | _ + 1, before, '\\' :: 'c' :: _ => (before.reverse, true)
  | count + 1, before, '\\' :: rest =>
    let (e, after) := argumentEscape rest
    unescape count (e :: before) after
  | count + 1, before, c :: rest => unescape count (c :: before) rest

def echo (arguments : List (List Char)) : List Char :=
  let (newline, arguments) := match arguments with
    | ['-', 'n'] :: rest => (false, rest)
    | _ => (true, arguments)
  let text := [' '].intercalate arguments
  let (shown, ended) := unescape text.length [] text
  if newline && !ended then shown ++ ['\n'] else shown

structure Conversion where
  left : Bool := false
  sign : Bool := false
  space : Bool := false
  zero : Bool := false
  marked : Bool := false
  width : Nat := 0
  precision : Option Nat := none
  letter : Char

def Conversion.pad (c : Conversion) (text : List Char) : List Char :=
  let fill := List.replicate (c.width - text.length) ' '
  if c.left then text ++ fill else fill ++ text

def Conversion.padNumber (c : Conversion) (mark digits : List Char) : List Char :=
  let digits := match c.precision with
    | some p =>
      if p = 0 && digits == ['0'] then []
      else List.replicate (p - digits.length) '0' ++ digits
    | none => digits
  if c.zero && !c.left && c.precision.isNone then
    mark ++ List.replicate (c.width - mark.length - digits.length) '0' ++ digits
  else c.pad (mark ++ digits)

inductive Defect where
  | notNumeric
  | partlyNumeric
  | outOfRange
  deriving DecidableEq, Repr

def Defect.message : Defect → String
  | .notNumeric => "expected numeric value"
  | .partlyNumeric => "not completely converted"
  | .outOfRange => "Numerical result out of range"

/-- The defect of an argument of which some was read, or nothing, and of which a rest is left. -/
def defectOf (argument : List Char) (found : Bool) (rest : List Char) (outside : Bool) :
    Option Defect :=
  if !found then if argument.isEmpty then none else some .notNumeric
  else if !rest.isEmpty then some .partlyNumeric
  else if outside then some .outOfRange
  else none

/-- The number that an argument writes, and what is wrong with it: a signed one, or an unsigned one. A
    quote stands for the code of the character after it. -/
def numberOf (isSigned : Bool) (argument : List Char) : Int × Option Defect :=
  match argument with
  | '\'' :: rest | '"' :: rest => (((rest.head?.map Char.toNat).getD 0 : Nat), none)
  | _ =>
    let s := Number.scan true argument
    if isSigned then
      (Number.clamp s.value, defectOf argument s.found s.rest (Number.isOutside s.value))
    else
      let greatest : Nat := 18446744073709551615
      let outside := decide (greatest < s.value.natAbs)
      (if outside then greatest else s.value, defectOf argument s.found s.rest outside)

def digitsIn (base n : Nat) : List Char :=
  Nat.toDigits base n

def floatOf (argument : List Char) : Binary64 × Option Defect :=
  match argument with
  | '\'' :: rest | '"' :: rest =>
    (Binary64.ofInt ((rest.head?.map Char.toNat).getD 0 : Nat), none)
  | _ =>
    match Decimal.scan? argument with
    | some (x, rest) => (x, defectOf argument true rest false)
    | none => (Binary64.zero, defectOf argument false argument false)

def Conversion.float (c : Conversion) (x : Binary64) : List Char :=
  let mark := if Decimal.isNegative x then ['-'] else if c.sign then ['+']
    else if c.space then [' '] else []
  let digits := Decimal.magnitude c.letter c.marked (c.precision.getD 6) x
  let digits := if c.letter.isUpper then digits.map Char.toUpper else digits
  { c with precision := none, zero := c.zero && x.isFinite }.padNumber mark digits

/-- The digits of a finite number with base sixteen, and its power of two. The first digit is one,
    unless the number is too small for that. -/
def hexDigits (precision : Option Nat) (marked : Bool) (units : Nat) : List Char :=
  let bits := Nat.log2 units
  /- Units and halves of them: 2 ^ 1074 units are one, and 53 bits fill a number. -/
  let power : Int := if units = 0 then 0 else if bits < 52 then -1022 else (bits : Int) - 1074
  let scaled := if bits < 52 then units else units / Nat.pow 2 (bits - 52)
  let count := precision.getD 13
  let kept :=
    if 13 ≤ count then scaled * Nat.pow 16 (count - 13)
    else
      let step := Nat.pow 16 (13 - count)
      let rest := scaled % step
      let whole := scaled / step
      if step < 2 * rest || (2 * rest = step && whole % 2 = 1) then whole + 1 else whole
  let one := Nat.pow 16 count
  let digits := digitsIn 16 (kept % one)
  let fraction := List.replicate (count - digits.length) '0' ++ digits
  let fraction := if count = 0 then [] else if precision.isSome then fraction
    else (fraction.reverse.dropWhile (· == '0')).reverse
  let point := if fraction.isEmpty && !marked then [] else ['.']
  digitsIn 16 (kept / one) ++ point ++ fraction ++ ['p', if power < 0 then '-' else '+'] ++
    digitsIn 10 power.natAbs

def Conversion.hexFloat (c : Conversion) (x : Binary64) : List Char :=
  match x with
  | .finite negative units =>
    let sign := if negative then ['-'] else if c.sign then ['+'] else if c.space then [' '] else []
    let upper (text : List Char) : List Char :=
      if c.letter.isUpper then text.map Char.toUpper else text
    { c with precision := none }.padNumber (sign ++ upper ['0', 'x'])
      (upper (hexDigits c.precision c.marked units))
  | x => c.float x

def Conversion.word (c : Conversion) (n : Nat) : List Char :=
  match c.letter with
  | 'o' =>
    let digits := digitsIn 8 n
    let short := match c.precision with
      | some p => decide (p ≤ digits.length)
      | none => true
    if c.marked && short && n ≠ 0 then c.padNumber [] ('0' :: digits)
    else c.padNumber [] digits
  | 'x' => c.padNumber (if c.marked && n != 0 then ['0', 'x'] else []) (digitsIn 16 n)
  | 'X' =>
    c.padNumber (if c.marked && n != 0 then ['0', 'X'] else [])
      ((digitsIn 16 n).map Char.toUpper)
  | _ => c.padNumber [] (digitsIn 10 n)

/-- What a conversion makes of an argument, what is wrong with the argument, and whether all output
    ends there. Nothing comes of an unknown letter. -/
def Conversion.convert? (c : Conversion) (argument : List Char) :
    Option (List Char × Option Defect × Bool) :=
  let cut (text : List Char) : List Char := match c.precision with
    | some p => text.take p
    | none => text
  match c.letter with
  | 's' => some (c.pad (cut argument), none, false)
  | 'b' =>
    let (shown, ended) := unescape argument.length [] argument
    some (c.pad (cut shown), none, ended)
  | 'c' => some (c.pad [argument.headD '\x00'], none, false)
  | 'd' | 'i' =>
    let (n, defect) := numberOf true argument
    let mark := if n < 0 then ['-'] else if c.sign then ['+'] else if c.space then [' '] else []
    some (c.padNumber mark (digitsIn 10 n.natAbs), defect, false)
  | 'u' | 'o' | 'x' | 'X' =>
    let (n, defect) := numberOf false argument
    some (c.word (Number.unsigned n), defect, false)
  | 'e' | 'E' | 'f' | 'F' | 'g' | 'G' =>
    let (x, defect) := floatOf argument
    some (c.float x, defect, false)
  | 'a' | 'A' =>
    let (x, defect) := floatOf argument
    some (c.hexFloat x, defect, false)
  | _ => none

def flags (c : Conversion) : List Char → Conversion × List Char
  | '-' :: rest => flags { c with left := true } rest
  | '+' :: rest => flags { c with sign := true } rest
  | ' ' :: rest => flags { c with space := true } rest
  | '0' :: rest => flags { c with zero := true } rest
  | '#' :: rest => flags { c with marked := true } rest
  | rest => (c, rest)

inductive FormatError where
  | missingCharacter
  | unknownDirective (text : List Char)
  deriving DecidableEq, Repr

def FormatError.message : FormatError → List Char
  | .missingCharacter => "missing format character".toList
  | .unknownDirective text => text ++ ": invalid directive".toList

structure Progress where
  written : List Char := []
  arguments : List (List Char)
  defects : List (List Char × Defect) := []
  ended : Bool := false
  error : Option FormatError := none

def Progress.note (p : Progress) (defect : Option Defect) : Progress :=
  match defect with
  | some d => { p with defects := (p.arguments.headD [], d) :: p.defects }
  | none => p

def measure (text : List Char) (p : Progress) : Option Int × List Char × Progress :=
  match text with
  | '*' :: rest =>
    let (n, defect) := numberOf true (p.arguments.headD [])
    (some n, rest, { p.note defect with arguments := p.arguments.drop 1 })
  | _ =>
    let digits := text.takeWhile Char.isDigit
    (if digits.isEmpty then none else some (numberOf true digits).1, text.dropWhile Char.isDigit, p)

def pass : Nat → List Char → Progress → Progress
  | 0, _, p => p
  | _ + 1, [], p => p
  | count + 1, '\\' :: rest, p =>
    let (e, after) := escape rest
    pass count after { p with written := e :: p.written }
  | count + 1, '%' :: '%' :: rest, p => pass count rest { p with written := '%' :: p.written }
  | count + 1, '%' :: text, p =>
    let (c, rest) := flags ⟨false, false, false, false, false, 0, none, ' '⟩ text
    let (width, rest, p) := measure rest p
    let width := width.getD 0
    let c := { c with width := width.natAbs, left := c.left || decide (width < 0) }
    let (precision, rest, p) := match rest with
      | '.' :: rest =>
        let (precision, rest, p) := measure rest p
        (some (precision.getD 0).toNat, rest, p)
      | rest => (none, rest, p)
    match rest with
    | [] => { p with error := some .missingCharacter }
    | letter :: rest =>
      match ({ c with precision := precision, letter := letter } : Conversion).convert?
          (p.arguments.headD []) with
      | none =>
        { p with error := some (.unknownDirective ('%' :: text.take (text.length - rest.length))) }
      | some (shown, defect, ended) =>
        let p := { p.note defect with
          written := shown.reverse ++ p.written, arguments := p.arguments.drop 1, ended }
        if ended then p else pass count rest p
  | count + 1, c :: rest, p => pass count rest { p with written := c :: p.written }

def passes (format : List Char) : Nat → Progress → Progress
  | 0, p => p
  | count + 1, p =>
    let after := pass format.length format p
    if after.error.isSome || after.ended || after.arguments.isEmpty ||
      after.arguments.length == p.arguments.length then after
    else passes format count after

structure Printed where
  text : List Char := []
  complaints : List (List Char) := []
  status : Nat

def formatted (format : List Char) (arguments : List (List Char)) : Printed :=
  let p := passes format (arguments.length + 1) { arguments }
  let defects := p.defects.reverse.map fun (argument, d) =>
    argument ++ ": ".toList ++ d.message.toList
  { text := p.written.reverse
    complaints := defects ++ (p.error.map FormatError.message).toList
    status := if p.error.isSome then 2 else if p.defects.isEmpty then 0 else 1 }

def printf : List (List Char) → Printed
  | [] | [['-', '-']] =>
    { complaints := ["usage: printf format [arg ...]".toList], status := 2 }
  | ['-', '-'] :: format :: arguments => formatted format arguments
  | ('-' :: c :: rest) :: arguments =>
    if c == '-' && rest.isEmpty then formatted [] arguments
    else { complaints := ["Illegal option -".toList ++ [c]], status := 2 }
  | format :: arguments => formatted format arguments

end Gesture.Shell.Format
