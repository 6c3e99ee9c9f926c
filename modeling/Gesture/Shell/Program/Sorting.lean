import Gesture.Shell.Decimal
import Gesture.Shell.Program.Column

namespace Gesture.Shell.Program

namespace Sorting

inductive Order where
  | bytes
  | numeric
  | general
  | human
  | month
  | version
  deriving DecidableEq, Repr

structure Way where
  order : Order := .bytes
  reversed : Bool := false
  ignoresCase : Bool := false
  dictionary : Bool := false
  printing : Bool := false
  letters : List Char := []
  deriving DecidableEq, Repr

structure Place where
  field : Nat
  char : Nat
  skipsBlanks : Bool
  deriving DecidableEq, Repr

structure Key where
  start : Place
  ending : Option Place
  way : Way
  deriving DecidableEq, Repr

def isBlank (c : Char) : Bool :=
  c == ' ' || c == '\t' || c == '\n'

def afterFields (separator : Option Char) : Nat → Bytes → Bytes
  | 0, text => text
  | count + 1, text =>
    match separator with
    | some c => afterFields separator count ((text.dropWhile (· != c)).drop 1)
    | none =>
      afterFields separator count ((text.dropWhile isBlank).dropWhile fun c => !isBlank c)

def fromStart (separator : Option Char) (p : Place) (line : Bytes) : Bytes :=
  let rest := afterFields separator p.field line
  (if p.skipsBlanks then rest.dropWhile isBlank else rest).drop p.char

def afterEnd (separator : Option Char) (p : Place) (line : Bytes) : Bytes :=
  if p.char = 0 then
    match separator with
    | some c => (afterFields separator p.field line).dropWhile (· != c)
    | none => afterFields separator (p.field + 1) line
  else
    let rest := afterFields separator p.field line
    (if p.skipsBlanks then rest.dropWhile isBlank else rest).drop p.char

def Key.text (separator : Option Char) (k : Key) (line : Bytes) : Bytes :=
  let rest := fromStart separator k.start line
  match k.ending with
  | none => rest
  | some p => rest.take (rest.length - (afterEnd separator p line).length)

/-- A number's sign, its digits before the point without zeros in front, and those after it without
    zeros at the end. -/
structure Decimal where
  negative : Bool
  whole : Bytes
  fraction : Bytes
  rest : Bytes

def decimalOf (text : Bytes) : Decimal :=
  let text := text.dropWhile isBlank
  let (negative, text) := match text with
    | '-' :: rest => (true, rest)
    | text => (false, text)
  let whole := text.takeWhile Char.isDigit
  let rest := text.drop whole.length
  let fraction := match rest with
    | '.' :: more => more.takeWhile Char.isDigit
    | _ => []
  let rest := if rest.head? == some '.' then rest.drop (fraction.length + 1) else rest
  ⟨negative, whole.dropWhile (· == '0'),
    (fraction.reverse.dropWhile (· == '0')).reverse, rest⟩

def Decimal.isZero (d : Decimal) : Bool :=
  d.whole.isEmpty && d.fraction.isEmpty

def Decimal.compareSizes (a b : Decimal) : Ordering :=
  (compare a.whole.length b.whole.length).then
    ((compare a.whole b.whole).then (compare a.fraction b.fraction))

def Decimal.compare (a b : Decimal) : Ordering :=
  let signOf (d : Decimal) : Int := if d.isZero then 0 else if d.negative then -1 else 1
  (Ord.compare (signOf a) (signOf b)).then
    (if a.isZero || b.isZero then .eq
      else if a.negative then (a.compareSizes b).swap else a.compareSizes b)

def unitRank (d : Decimal) : Int :=
  let rank : Nat := match d.rest with
    | c :: _ =>
      ((("KMGTPEZYRQ".toList.zipIdx.lookup c).map (· + 1)).or
        (if c == 'k' then some 1 else none)).getD 0
    | [] => 0
  if d.isZero then 0 else if d.negative then -(rank : Int) else rank

def monthRank (text : Bytes) : Nat :=
  let name := ((text.dropWhile isBlank).take 3).map Char.toUpper
  let months := ["JAN", "FEB", "MAR", "APR", "MAY", "JUN", "JUL", "AUG", "SEP", "OCT", "NOV", "DEC"]
  ((months.zipIdx.lookup (String.ofList name)).map (· + 1)).getD 0

def compareGeneral (a b : Bytes) : Ordering :=
  let rank (x : Option (Binary64 × Bytes)) : Int × Int :=
    match x with
    | none => (-3, 0)
    | some (.nan, _) => (-2, 0)
    | some (.infinite negative, _) => (if negative then -1 else 1, 0)
    | some (.finite negative units, _) => (0, if negative then -(units : Int) else units)
  let x := rank (Shell.Decimal.scan? a)
  let y := rank (Shell.Decimal.scan? b)
  (compare x.1 y.1).then (compare x.2 y.2)

/-- The rank of a character in names with versions: a tilde first, then the end, then letters, then
    all else. -/
def versionRank (c : Option Char) : Int :=
  match c with
  | none => 0
  | some '~' => -1
  | some c => if c.isDigit then 0 else if c.isAlpha then c.toNat else c.toNat + 256

def compareParts : Nat → Bytes → Bytes → Ordering
  | 0, _, _ => .eq
  | limit + 1, a, b =>
    if a.isEmpty && b.isEmpty then .eq
    else
      let wordA := a.takeWhile fun c => !c.isDigit
      let wordB := b.takeWhile fun c => !c.isDigit
      let size := max wordA.length wordB.length
      let words := (List.range size).foldl
        (fun (o : Ordering) i => o.then (compare (versionRank wordA[i]?) (versionRank wordB[i]?)))
        .eq
      let restA := a.drop wordA.length
      let restB := b.drop wordB.length
      let numberA := restA.takeWhile Char.isDigit
      let numberB := restB.takeWhile Char.isDigit
      let numbers := compare (Text.decimalValue numberA) (Text.decimalValue numberB)
      (words.then numbers).then
        (compareParts limit (restA.drop numberA.length) (restB.drop numberB.length))

/-- Whether a text of at most `limit` characters consists of endings of file names, each with a
    point before it. -/
def isEnding : Nat → Bytes → Bool
  | _, [] => true
  | limit + 1, '.' :: c :: rest =>
    (c.isAlpha || c == '~') && isEnding limit (rest.dropWhile fun c => c.isAlphanum || c == '~')
  | _, _ => false

def withoutEndings (name : Bytes) : Bytes :=
  let lengths := (List.range name.length).map (· + 1)
  name.take ((lengths.find? fun k => isEnding name.length (name.drop k)).getD name.length)

/-- What comes first among names with versions: the empty one, those of directories, and those with a
    point in front. -/
def nameRank : Bytes → Nat
  | [] => 0
  | ['.'] => 1
  | ['.', '.'] => 2
  | '.' :: _ => 3
  | _ => 4

def compareVersions (a b : Bytes) : Ordering :=
  let limit := a.length + b.length + 1
  let ranks := compare (nameRank a) (nameRank b)
  let fronts := compareParts limit (withoutEndings a) (withoutEndings b)
  (ranks.then fronts).then (compareParts limit a b)

def Way.view (w : Way) (text : Bytes) : Bytes :=
  let kept := text.filter fun c =>
    (!w.dictionary || c.isAlphanum || isBlank c) &&
      (!w.printing || (decide (' ' ≤ c) && decide (c ≤ '~')))
  if w.ignoresCase then kept.map Char.toUpper else kept

def Way.compare (w : Way) (a b : Bytes) : Ordering :=
  let found := match w.order with
    | .bytes => Ord.compare (w.view a) (w.view b)
    | .numeric => (decimalOf a).compare (decimalOf b)
    | .general => compareGeneral a b
    | .human =>
      let x := decimalOf a
      let y := decimalOf b
      (Ord.compare (unitRank x) (unitRank y)).then (x.compare y)
    | .month => Ord.compare (monthRank a) (monthRank b)
    | .version => compareVersions a b
  if w.reversed then found.swap else found

def Way.add? (w : Way) (letter : Char) : Option Way :=
  let w := { w with letters := letter :: w.letters }
  match letter with
  | 'n' => some { w with order := .numeric }
  | 'g' => some { w with order := .general }
  | 'h' => some { w with order := .human }
  | 'M' => some { w with order := .month }
  | 'V' => some { w with order := .version }
  | 'R' => some w
  | 'r' => some { w with reversed := true }
  | 'f' => some { w with ignoresCase := true }
  | 'd' => some { w with dictionary := true }
  | 'i' => some { w with printing := true }
  | 'b' => some w
  | _ => none

def Way.conflict? (w : Way) : Option Bytes :=
  let has (letter : Char) : Bool := w.letters.contains letter
  let orders := ("ghMn".toList.filter has).length +
    (if "VRdi".toList.any has then 1 else 0)
  if orders ≤ 1 then none
  else some ("dfghiMnRV".toList.filter fun c => has c && !(c == 'i' && has 'd'))

structure Written where
  field : Nat
  char : Option Nat
  letters : Bytes
  rest : Bytes

def writtenPlace? (text : Bytes) : Option Written :=
  let digits := text.takeWhile Char.isDigit
  let rest := text.drop digits.length
  let (char?, rest) : Option (Option Nat) × Bytes := match rest with
    | '.' :: more =>
      let chars := more.takeWhile Char.isDigit
      (if chars.isEmpty then none else some (some (Text.decimalValue chars)),
        more.drop chars.length)
    | rest => (some none, rest)
  let letters := rest.takeWhile fun c => "bdfgiMhnrRV".toList.contains c
  if digits.isEmpty then none
  else char?.map fun char => ⟨Text.decimalValue digits, char, letters, rest.drop letters.length⟩

/-- The key that a text describes, or what is wrong with it. The ways of the whole are those of a
    key without its own. -/
def keyOf (whole : Way) (wholeBlanks : Bool) (text : Bytes) : Except String Key := do
  match writtenPlace? text with
  | none => throw ("invalid number at field start: invalid count at start of " ++ inRoundQuotes text)
  | some start =>
    if start.field = 0 then
      throw ("field number is zero: invalid field specification " ++ inRoundQuotes text)
    if start.char == some 0 then
      throw ("character offset is zero: invalid field specification " ++ inRoundQuotes text)
    let stray : String := "stray character in field spec: invalid field specification " ++
      inRoundQuotes text
    let ending : Option Written ← match start.rest with
      | [] => pure none
      | ',' :: more =>
        match writtenPlace? more with
        | none =>
          throw ("invalid number after ',': invalid count at start of " ++ inRoundQuotes more)
        | some e =>
          if e.field = 0 then
            throw ("field number is zero: invalid field specification " ++ inRoundQuotes text)
          if !e.rest.isEmpty then throw stray
          pure (some e)
      | _ => throw stray
    let letters := start.letters ++ (ending.map (·.letters)).getD []
    let own := letters.foldl (fun (w : Way) c => (w.add? c).getD w) {}
    let plain := letters.isEmpty
    return {
      start := ⟨start.field - 1, (start.char.getD 1) - 1,
        if plain then wholeBlanks else start.letters.contains 'b'⟩
      ending := ending.map fun e =>
        ⟨e.field - 1, e.char.getD 0,
          if plain then wholeBlanks else e.letters.contains 'b'⟩
      way := if plain then whole else own }

def compareKeys (separator : Option Char) (keys : List Key) (a b : Bytes) : Ordering :=
  keys.foldl
    (fun (o : Ordering) k => o.then (k.way.compare (k.text separator a) (k.text separator b)))
    .eq

def distinct (compare : Bytes → Bytes → Ordering) (lines : List Bytes) : List Bytes :=
  (lines.foldl
    (fun done line =>
      match done with
      | last :: _ => if compare last line == .eq then done else line :: done
      | [] => [line])
    []).reverse

def disorder? (isFine : Bytes → Bytes → Bool) : Nat → List Bytes → Option (Nat × Bytes)
  | n, a :: b :: rest =>
    if isFine a b then disorder? isFine (n + 1) (b :: rest) else some (n + 1, b)
  | _, _ => none

/-- The lines of files that are in order each, in one order. Of equal lines, those of earlier files
    come first. -/
def merged (order : Bytes → Bytes → Ordering) : Nat → List (List Bytes) → List Bytes
  | 0, _ => []
  | limit + 1, files =>
    let files := files.filter fun lines => !lines.isEmpty
    let better (best : Nat × Bytes) (found : List Bytes × Nat) : Nat × Bytes :=
      match found.1 with
      | line :: _ => if order line best.2 == .lt then (found.2, line) else best
      | [] => best
    match files with
    | (line :: _) :: _ =>
      let (place, line) := files.zipIdx.foldl better (0, line)
      line :: merged order limit (files.modify place List.tail)
    | _ => []

/-- An old way of writing keys, with fields to pass over after a plus sign and fields to stop at
    after a dash, in the usual one. -/
def oldKey? (first : Bytes) (second : Option Bytes) : Option Bytes := do
  let start ← match first with
    | '+' :: text => writtenPlace? text
    | _ => none
  if !start.rest.isEmpty then none
  let front := Run.number (start.field + 1) ++ '.' :: Run.number (start.char.getD 0 + 1)
  match second with
  | none => return front ++ start.letters
  | some second =>
    let stop ← writtenPlace? (second.drop 1)
    let back := match stop.char.getD 0 with
      | 0 => Run.number stop.field
      | char => Run.number (stop.field + 1) ++ '.' :: Run.number char
    return front ++ start.letters ++ ',' :: back ++ stop.letters ++ stop.rest

def modernKeys : List Bytes → List Bytes
  | [] => []
  | ['-', '-'] :: rest => ['-', '-'] :: rest
  | first :: second :: rest =>
    let isStop := match second with
      | '-' :: c :: _ => c.isDigit
      | _ => false
    match if isStop then oldKey? first (some second) else none, oldKey? first none with
    | some key, _ => ['-', 'k'] :: key :: modernKeys rest
    | none, some key => ['-', 'k'] :: key :: modernKeys (second :: rest)
    | none, none => first :: modernKeys (second :: rest)
  | [last] =>
    match oldKey? last none with
    | some key => [['-', 'k'], key]
    | none => [last]

structure Task where
  separator : Option Char
  keys : List Key
  whole : Bool
  reversed : Bool
  onlyFirst : Bool
  merges : Bool

def Task.byKeys (t : Task) (a b : Bytes) : Ordering :=
  compareKeys t.separator t.keys a b

def Task.order (t : Task) (a b : Bytes) : Ordering :=
  let last := if !t.whole then .eq else if t.reversed then compare b a else compare a b
  (t.byKeys a b).then last

def Task.sorted (t : Task) (files : List (List Bytes)) : List Bytes :=
  let lines :=
    if t.merges then merged t.order (total (files.map (·.length))) files
    else files.flatten.mergeSort fun a b => t.order a b != .gt
  if t.onlyFirst then distinct t.byKeys lines else lines

def sortLetter? (name : Bytes) : Option Char :=
  let names := [("general-numeric", 'g'), ("human-numeric", 'h'), ("month", 'M'), ("numeric", 'n'),
    ("random", 'R'), ("version", 'V')]
  match names.filter fun n => name.isPrefixOf n.1.toList with
  | [(_, letter)] => some letter
  | _ => none

def plainLetters (o : Options) : Except String Options := do
  let letters ← o.letters.mapM fun (letter, value) => do
    match letter with
    | '\x01' =>
      match sortLetter? value with
      | some c => return (c, [])
      | none => throw ("invalid argument " ++ inRoundQuotes value ++
          " for \xe2\x80\x98--sort\xe2\x80\x99")
    | '\x02' =>
      if value.isEmpty || value.isPrefixOf "diagnose-first".toList then return ('c', [])
      else if value.isPrefixOf "quiet".toList || value.isPrefixOf "silent".toList then
        return ('C', [])
      else throw ("invalid argument " ++ inRoundQuotes value ++
        " for \xe2\x80\x98--check\xe2\x80\x99")
    | letter => return (letter, value)
  return { o with letters }

def taskOf (o : Options) : Except String Task := do
  let whole := o.letters.foldl (fun (w : Way) l => (w.add? l.1).getD w) {}
  let specs := (o.letters.filter (·.1 == 'k')).map (·.2)
  let keys ← specs.mapM (keyOf whole (o.has 'b'))
  let separators ← (o.letters.filter (·.1 == 't')).mapM fun (_, text) =>
    match text with
    | [c] => Except.ok c
    | ['\\', '0'] => .ok '\x00'
    | [] => .error "empty tab"
    | text => .error ("multi-character tab " ++ inRoundQuotes text)
  if separators.any fun c => some c != separators.head? then throw "incompatible tabs"
  let outputs := (o.letters.filter (·.1 == 'o')).map (·.2)
  if outputs.any fun p => some p != outputs.head? then throw "multiple output files specified"
  let allKeys : List Key :=
    if keys.isEmpty then [⟨⟨0, 0, o.has 'b'⟩, none, whole⟩] else keys
  match allKeys.findSome? fun k => k.way.conflict? with
  | some letters => throw ("options '-" ++ shown letters ++ "' are incompatible")
  | none => pure ()
  if o.has 'c' && o.has 'C' then throw "options '-cC' are incompatible"
  if (o.has 'c' || o.has 'C') && o.has 'o' then
    throw ("options '-" ++ (if o.has 'c' then "c" else "C") ++ "o' are incompatible")
  return {
    separator := separators.head?
    keys := allKeys
    whole := !(o.has 'u' || o.has 's')
    reversed := whole.reversed
    onlyFirst := o.has 'u'
    merges := o.has 'm' }

def Task.check (t : Task) (tells : Bool) (ending : Char) (path : Bytes) : Run Nat := do
  match ← openInput path with
  | .error e => refuse 2 ("open failed: " ++ named path ++ ": " ++ e.reason)
  | .ok d =>
    match ← Run.receiveAll d with
    | .error e => refuse 2 ("read failed: " ++ named path ++ ": " ++ e.reason)
    | .ok text =>
      let isFine (a b : Bytes) : Bool :=
        match t.order a b with
        | .lt => true
        | .eq => !t.onlyFirst
        | .gt => false
      match disorder? isFine 1 (linesBy ending text) with
      | none => return 0
      | some (n, line) =>
        if tells then
          complain (shown path ++ ":" ++ toString n ++ ": disorder: " ++ shown line)
        return 1

def readAll (paths : List Bytes) : Run (Except String (List Bytes)) := do
  let m ← get
  let missing := paths.findSome? fun path =>
    if path == ['-'] || (Run.descriptorPath? path).isSome then none
    else
      match m.tree.look m.process.working path true with
      | .ok _ => none
      | .error e => some ("cannot read: " ++ named path ++ ": " ++ e.reason)
  match missing with
  | some message => return .error message
  | none =>
    let found ← paths.mapM fun path => do
      match ← openInput path with
      | .error e => return Except.error ("open failed: " ++ named path ++ ": " ++ e.reason)
      | .ok d =>
        match ← Run.receiveAll d with
        | .error e => return Except.error ("read failed: " ++ named path ++ ": " ++ e.reason)
        | .ok text => return .ok text
    return found.mapM id

def Task.run (t : Task) (ending : Char) (paths : List Bytes) (output : Option Bytes) :
    Run Nat := do
  match ← readAll paths with
  | .error message => refuse 2 message
  | .ok texts =>
    let written := (t.sorted (texts.map (linesBy ending))).flatMap (· ++ [ending])
    match ← directOutput output with
    | some message => refuse 2 ("open failed: " ++ message)
    | none =>
      emit written
      return 0

end Sorting

open Sorting in
def sort (arguments : List Bytes) : Run Nat :=
  let long := [("numeric-sort", 'n'), ("general-numeric-sort", 'g'), ("human-numeric-sort", 'h'),
    ("month-sort", 'M'), ("version-sort", 'V'), ("random-sort", 'R'), ("reverse", 'r'),
    ("ignore-case", 'f'), ("dictionary-order", 'd'), ("ignore-nonprinting", 'i'),
    ("ignore-leading-blanks", 'b'), ("unique", 'u'), ("stable", 's'), ("key", 'k'),
    ("field-separator", 't'), ("output", 'o'), ("merge", 'm'), ("zero-terminated", 'z'),
    ("sort", '\x01'), ("check", '\x02'), ("random-source", '\x03'), ("buffer-size", 'S'),
    ("temporary-directory", 'T'), ("parallel", '\x04')]
  let letters := "nghMVRrfdibusk:t:o:mcCzS:T:y:\x01:\x02::\x03:\x04:"
  withOptions letters long false 2 (modernKeys arguments) fun o => do
    match plainLetters o with
    | .error message => misuse 2 message
    | .ok o =>
      let ending := if o.has 'z' then '\x00' else '\n'
      let paths := if o.rest.isEmpty then [['-']] else o.rest
      match taskOf o with
      | .error message => refuse 2 message
      | .ok t =>
        if o.has 'c' || o.has 'C' then
          match paths with
          | _ :: extra :: _ =>
            refuse 2 ("extra operand " ++ inRoundQuotes extra ++ " not allowed with -" ++
              (if o.has 'c' then "c" else "C"))
          | path :: _ => t.check (o.has 'c') ending path
          | [] => return 0
        else t.run ending paths (o.last? 'o')

end Gesture.Shell.Program
