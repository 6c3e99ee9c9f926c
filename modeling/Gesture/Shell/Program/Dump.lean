import Gesture.Shell.Program.Size

namespace Gesture.Shell.Program

namespace Dump

inductive Meaning where
  | char
  | name
  | hex
  | octal
  | signed
  | unsigned
  | float
  deriving DecidableEq, Repr

structure Kind where
  meaning : Meaning
  size : Nat
  trailer : Bool := false
  deriving DecidableEq, Repr

def digitCount (base size : Nat) : Nat :=
  (Nat.toDigits base (Nat.pow 256 size - 1)).length

def Kind.width (k : Kind) : Nat :=
  match k.meaning with
  | .char | .name => 3
  | .hex => digitCount 16 k.size
  | .octal => digitCount 8 k.size
  | .signed => (Nat.toDigits 10 (Nat.pow 256 k.size / 2)).length + 1
  | .unsigned => digitCount 10 k.size
  | .float => if k.size = 4 then 15 else 24

def filled (base width n : Nat) : Bytes :=
  padLeft '0' width (Nat.toDigits base n)

def signNames : List String :=
  ["nul", "soh", "stx", "etx", "eot", "enq", "ack", "bel", "bs", "ht", "nl", "vt", "ff", "cr", "so",
    "si", "dle", "dc1", "dc2", "dc3", "dc4", "nak", "syn", "etb", "can", "em", "sub", "esc", "fs",
    "gs", "rs", "us", "sp"]

def escape? (n : Nat) : Option String :=
  match n with
  | 7 => some "\\a"
  | 8 => some "\\b"
  | 9 => some "\\t"
  | 10 => some "\\n"
  | 11 => some "\\v"
  | 12 => some "\\f"
  | 13 => some "\\r"
  | _ => none

def isPlain (c : Char) : Bool :=
  decide (' ' ≤ c) && decide (c ≤ '~')

def floatOf (exponentBits fractionBits n : Nat) : Binary64 :=
  let fraction := n % Nat.pow 2 fractionBits
  let exponent := n / Nat.pow 2 fractionBits % Nat.pow 2 exponentBits
  let negative := n / Nat.pow 2 (exponentBits + fractionBits) % 2 == 1
  let bias := Nat.pow 2 (exponentBits - 1) - 1
  if exponent = Nat.pow 2 exponentBits - 1 then
    if fraction = 0 then .infinite negative else .nan
  else
    let significand := if exponent = 0 then fraction else fraction + Nat.pow 2 fractionBits
    .finite negative
      (significand * Binary64.one * Nat.pow 2 (max exponent 1) / Nat.pow 2 (bias + fractionBits))

def nearestSingle (units : Nat) : Nat :=
  let grid := max (Nat.pow 2 (units.log2 - 23)) (Binary64.one / Nat.pow 2 149)
  roundDiv units grid * grid

/-- The fewest digits, from a number of them on, that tell a magnitude apart from its neighbours. -/
def shortest (single : Bool) (units : Nat) : Nat → Nat → Bytes
  | 0, digits => Decimal.general false digits units
  | limit + 1, digits =>
    let text := Decimal.general false digits units
    let back := match Decimal.scan? text with
      | some (x, _) => Decimal.unitsOf x
      | none => 0
    if (if single then nearestSingle back else back) = units then text
    else shortest single units limit (digits + 1)

def floatText (single : Bool) (x : Binary64) (sign : Bool) : Bytes :=
  let size := match x with
    | .infinite _ => "inf".toList
    | .nan => "nan".toList
    | .finite _ units =>
      let least := Binary64.one / Nat.pow 2 (if single then 126 else 1022)
      let start := if units < least then 1 else if single then 6 else 15
      shortest single units 20 start
  if sign then '-' :: size else size

def Kind.shown (k : Kind) (n : Nat) : Bytes :=
  let isNegative := Nat.pow 256 k.size ≤ 2 * n
  match k.meaning with
  | .char =>
    match escape? n with
    | some e => e.toList
    | none =>
      if n = 0 then "\\0".toList
      else if isPlain (Char.ofNat n) then [Char.ofNat n]
      else filled 8 3 n
  | .name =>
    let n := n % 128
    if n = 127 then "del".toList
    else
      match signNames[n]? with
      | some name => name.toList
      | none => [Char.ofNat n]
  | .hex => filled 16 k.width n
  | .octal => filled 8 k.width n
  | .signed => Number.shown (if isNegative then (n : Int) - (Nat.pow 256 k.size : Nat) else n)
  | .unsigned => Run.number n
  | .float =>
    let single := k.size == 4
    floatText single (if single then floatOf 8 23 n else floatOf 11 52 n) isNegative

structure Style where
  kinds : List Kind
  address : Option (Nat × Nat)
  width : Nat
  all : Bool
  highFirst : Bool

def Style.addressText (s : Style) (n : Nat) : Bytes :=
  match s.address with
  | some (base, width) => filled base width n
  | none => []

def groups (size : Nat) : Nat → Bytes → List Bytes
  | 0, _ => []
  | limit + 1, bytes =>
    if bytes.isEmpty then [] else bytes.take size :: groups size limit (bytes.drop size)

def Style.number (s : Style) (size : Nat) (bytes : Bytes) : Nat :=
  let full := bytes ++ List.replicate (size - bytes.length) '\x00'
  (if s.highFirst then full.reverse else full).foldr (fun c n => 256 * n + c.toNat) 0

def Style.columns (s : Style) : Nat :=
  (s.kinds.map fun k => (k.width + 1) * (s.width / k.size)).foldl max 0

def Style.fields (s : Style) (k : Kind) (bytes : Bytes) : Bytes :=
  let count := s.width / k.size
  let room := s.columns - k.width * count
  let found := groups k.size s.width bytes
  let written := found.zipIdx.flatMap fun (group, i) =>
    let now := room * (count - i) / count - room * (count - i - 1) / count
    padLeft ' ' (k.width + now) (k.shown (s.number k.size group))
  if !k.trailer then written
  else
    let missing := count - found.length
    let text := bytes.map fun c => if isPlain c then c else '.'
    written ++ List.replicate (missing * k.width + room * missing / count) ' ' ++
      "  >".toList ++ text ++ ['<']

def Style.rows (s : Style) : Nat → Option Bytes → Bool → Nat → Bytes → Bytes
  | 0, _, _, _, _ => []
  | limit + 1, before, starred, n, bytes =>
    let piece := bytes.take s.width
    let rest := bytes.drop s.width
    if piece.isEmpty then if s.address.isSome then s.addressText n ++ ['\n'] else []
    else if !s.all && before == some piece && piece.length = s.width then
      (if starred then [] else ['*', '\n']) ++ s.rows limit before true (n + s.width) rest
    else
      let lines := s.kinds.zipIdx.map fun (k, i) =>
        (if i = 0 then s.addressText n else List.replicate (s.addressText n).length ' ') ++
          s.fields k piece ++ ['\n']
      lines.flatten ++ s.rows limit (some piece) false (n + piece.length) rest

def stringText (text : Bytes) : Bytes :=
  text.flatMap fun c => match escape? c.toNat with
    | some e => e.toList
    | none => [c]

def Style.strings (s : Style) (least : Nat) : Nat → Nat → Bytes → Bytes
  | 0, _, _ => []
  | limit + 1, n, bytes =>
    let run := bytes.takeWhile isPlain
    let address := if s.address.isSome then s.addressText n ++ [' '] else []
    match bytes.drop run.length with
    | [] => []
    | c :: rest =>
      (if c == '\x00' && least ≤ run.length then address ++ stringText run ++ ['\n'] else []) ++
        s.strings least limit (n + run.length + 1) rest

inductive TypeError where
  | sign (c : Char)
  | size (n : Nat) (isFloat : Bool)

def TypeError.message (text : Bytes) : TypeError → String
  | .sign c => "invalid character '" ++ c.toString ++ "' in type string " ++ inRoundQuotes text
  | .size n isFloat =>
    "invalid type string " ++ inRoundQuotes text ++ ";\nthis system doesn't provide a " ++
      toString n ++ "-byte " ++ (if isFloat then "floating point" else "integral") ++ " type"

def sizeAfter (letters : List (Char × Nat)) (usual : Nat) (text : Bytes) : Nat × Bytes :=
  let digits := text.takeWhile Char.isDigit
  match text with
  | c :: rest =>
    match letters.lookup c with
    | some size => (size, rest)
    | none =>
      if digits.isEmpty then (usual, text)
      else (Text.decimalValue digits, text.drop digits.length)
  | [] => (usual, [])

def kindsOf : Nat → Bytes → Except TypeError (List Kind)
  | 0, _ | _, [] => .ok []
  | limit + 1, c :: text => do
    let integers := [('C', 1), ('S', 2), ('I', 4), ('L', 8)]
    let integer (meaning : Meaning) : Except TypeError (Kind × Bytes) := do
      let (size, rest) := sizeAfter integers 4 text
      if [1, 2, 4, 8].contains size then return (⟨meaning, size, false⟩, rest)
      throw (.size size false)
    let (kind, rest) ← match c with
      | 'a' => pure ((⟨.name, 1, false⟩ : Kind), text)
      | 'c' => pure (⟨.char, 1, false⟩, text)
      | 'd' => integer .signed
      | 'o' => integer .octal
      | 'u' => integer .unsigned
      | 'x' => integer .hex
      | 'f' =>
        let (size, rest) := sizeAfter [('F', 4), ('D', 8)] 8 text
        if [4, 8].contains size then pure (⟨.float, size, false⟩, rest)
        else throw (.size size true)
      | c => throw (.sign c)
    match rest with
    | 'z' :: rest => return { kind with trailer := true } :: (← kindsOf limit rest)
    | rest => return kind :: (← kindsOf limit rest)

def typeOf? (letter : Char) : Option String :=
  match letter with
  | 'a' => some "a"
  | 'b' => some "o1"
  | 'c' => some "c"
  | 'D' => some "u4"
  | 'd' => some "u2"
  | 'e' | 'F' => some "fD"
  | 'f' => some "fF"
  | 'H' | 'X' => some "x4"
  | 'h' | 'x' => some "x2"
  | 'i' => some "dI"
  | 'I' | 'L' | 'l' => some "dL"
  | 'O' => some "o4"
  | 'B' | 'o' => some "o2"
  | 's' => some "d2"
  | _ => none

def count (letter : Char) (text : Bytes) : Except String Nat := do
  let start := text.dropWhile Number.isBlank
  let start := if start.head? == some '+' then start.drop 1 else start
  let hexadecimal := match start with
    | '0' :: x :: d :: _ => (x == 'x' || x == 'X') && (Text.hexValue? d).isSome
    | _ => false
  let base := if hexadecimal then 16 else if start.head? == some '0' then 8 else 10
  let body := if hexadecimal then start.drop 2 else start
  let digits := body.takeWhile fun c =>
    match Text.hexValue? c with
    | some v => decide (v < base)
    | none => false
  let value := digits.foldl (fun n c => base * n + (Text.hexValue? c).getD 0) 0
  let option := "-" ++ letter.toString
  if digits.isEmpty then throw ("invalid " ++ option ++ " argument '" ++ shown text ++ "'")
  match Size.unit? "bEGKkMmPTYZ0" (body.drop digits.length) with
  | some (unit, []) =>
    if Size.greatest < value * unit then throw (option ++ " argument '" ++ shown text ++ "' too large")
    return value * unit
  | _ => throw ("invalid suffix in " ++ option ++ " argument '" ++ shown text ++ "'")

def offset? (text : Bytes) : Option Nat :=
  let body := if text.head? == some '+' then text.drop 1 else text
  let (base, digits) := match body with
    | '0' :: x :: rest => if x == 'x' || x == 'X' then (16, rest) else (8, body)
    | _ => (8, body)
  let kept := digits.takeWhile fun c =>
    match Text.hexValue? c with
    | some v => decide (v < base)
    | none => false
  let value := kept.foldl (fun n c => base * n + (Text.hexValue? c).getD 0) 0
  match kept, digits.drop kept.length with
  | [], _ => none
  | _, [] => some value
  | _, ['b'] => some (512 * value)
  | _, ['B'] => some (1024 * value)
  | _, _ => none

structure Task where
  kinds : List Kind := []
  address : Option (Nat × Nat) := some (8, 7)
  skipped : Nat := 0
  most : Option Nat := none
  width : Option Nat := none
  strings : Option Nat := none
  all : Bool := false
  highFirst : Bool := false

def Task.withOption (t : Task) (letter : Char) (value : Bytes) : Except String Task := do
  match letter with
  | 't' =>
    match kindsOf (value.length + 1) value with
    | .ok kinds => return { t with kinds := t.kinds ++ kinds }
    | .error e => throw (e.message value)
  | 'A' =>
    match value with
    | 'd' :: _ => return { t with address := some (10, 7) }
    | 'o' :: _ => return { t with address := some (8, 7) }
    | 'x' :: _ => return { t with address := some (16, 6) }
    | 'n' :: _ => return { t with address := none }
    | _ =>
      throw ("invalid output address radix '" ++ shown (value.take 1) ++
        "'; it must be one character from [doxn]")
  | 'j' => return { t with skipped := ← count 'j' value }
  | 'N' => return { t with most := some (← count 'N' value) }
  | 'S' => return { t with strings := some (← if value.isEmpty then pure 3 else count 'S' value) }
  | 'w' => return { t with width := some (← if value.isEmpty then pure 32 else count 'w' value) }
  | 'v' => return { t with all := true }
  | '\x01' =>
    if !value.isEmpty && value.isPrefixOf "big".toList then return { t with highFirst := true }
    return { t with highFirst := false }
  | _ =>
    match (typeOf? letter).map String.toList with
    | some type =>
      match kindsOf 9 type with
      | .ok kinds => return { t with kinds := t.kinds ++ kinds }
      | .error e => throw (e.message type)
    | none => return t

def Task.style (t : Task) : Style × Option String :=
  let kinds := if t.kinds.isEmpty then [⟨.octal, 2, false⟩] else t.kinds
  let unit := (kinds.map (·.size)).foldl max 1
  let usual := unit * (16 / unit)
  let (width, warning) := match t.width with
    | none => (usual, none)
    | some w =>
      if w ≠ 0 && w % unit = 0 then (w, none)
      else
        (unit, some ("warning: invalid width " ++ toString w ++ "; using " ++ toString unit ++
          " instead"))
  (⟨kinds, t.address, width, t.all, t.highFirst⟩, warning)

def bytesOf (paths : List Bytes) : Run (Bytes × Nat × Bool) := do
  let found ← paths.mapM fun path => do
    match ← openInput path with
    | .error e =>
      complain (named path ++ ": " ++ e.reason)
      return (([] : Bytes), 0, false)
    | .ok d =>
      match ← Run.receiveKnown d with
      | .ok (text, endless) =>
        if endless then Run.update fun p => { p with unfinished := true }
        return (text, 1, true)
      | .error e =>
        complain (named path ++ ": " ++ e.reason)
        return ([], 1, false)
  return (found.flatMap (·.1), total (found.map (·.2.1)), found.all (·.2.2))

def Task.bytes (t : Task) (paths : List Bytes) : Run (Bytes × Nat × Bool) := do
  let (text, opened, good) ← bytesOf paths
  match t.most with
  | none => return (text, opened, good)
  | some most =>
    Run.update fun p =>
      { p with unfinished := p.unfinished && text.length < t.skipped + most }
    return (text.take (t.skipped + most), opened, good)

def Task.run (t : Task) (paths : List Bytes) : Run Nat := do
  let (style, warning) := t.style
  let (text, opened, good) ← t.bytes (if paths.isEmpty then [['-']] else paths)
  if opened = 0 then return 1
  else if text.length < t.skipped then refuse 1 "cannot skip past end of combined input"
  else
    match warning with
    | some w => complain w
    | none => pure ()
    let rest := text.drop t.skipped
    emit (match t.strings with
      | some least => style.strings least (rest.length + 1) t.skipped rest
      | none => style.rows (rest.length + 2) none false t.skipped rest)
    return if good then 0 else 1

end Dump

open Dump in
def od (arguments : List Bytes) : Run Nat :=
  let long := [("format", 't'), ("address-radix", 'A'), ("read-bytes", 'N'), ("skip-bytes", 'j'),
    ("strings", 'S'), ("output-duplicates", 'v'), ("width", 'w'), ("endian", '\x01'),
    ("traditional", '\x02')]
  let letters := "A:aBbcDdeFfHhIij:LlN:OoS:st:vw::Xx\x01:\x02"
  withOptions letters long false 1 arguments fun o => do
    match o.letters.foldlM (fun (t : Task) l => t.withOption l.1 l.2) {} with
    | .error message => refuse 1 message
    | .ok t =>
      let isModern := o.letters.any fun l => "AjNStvw\x01".toList.contains l.1
      let offset := match isModern, o.rest with
        | false, [a] => if a.head? == some '+' then offset? a else none
        | false, [_, b] =>
          if b.head? == some '+' || (b.headD ' ').isDigit then offset? b else none
        | _, _ => none
      if t.strings.isSome && !t.kinds.isEmpty then
        refuse 1 "no type may be specified when dumping strings"
      else
        match offset with
        | some n => Task.run { t with skipped := n } (o.rest.take (o.rest.length - 1))
        | none => t.run o.rest

end Gesture.Shell.Program
