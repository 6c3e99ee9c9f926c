import Gesture.Shell.Glob
import Gesture.Shell.Program.Basic

namespace Gesture.Shell.Program.Translate

inductive Piece where
  | chars (cs : List Char)
  | named (name : String)
  | like (c : Char)
  | repeated (c : Char) (count : Option Nat)
  deriving DecidableEq, Repr

def unescaped : Nat → Bytes → List Glob.Sign
  | 0, _ => []
  | _ + 1, [] => []
  | _ + 1, ['\\'] => [('\\', false)]
  | limit + 1, '\\' :: c :: rest =>
    if (Format.octalValue? c).isSome then
      let digits := (c :: rest).take 3 |>.takeWhile fun d => (Format.octalValue? d).isSome
      let value (ds : Bytes) : Nat := ds.foldl (fun n d => 8 * n + (Format.octalValue? d).getD 0) 0
      let digits := if 256 ≤ value digits then digits.take 2 else digits
      (Char.ofNat (value digits), true) :: unescaped limit ((c :: rest).drop digits.length)
    else
      let meant := match c with
        | 'a' => '\x07'
        | 'b' => '\x08'
        | 'f' => '\x0c'
        | 'n' => '\n'
        | 'r' => '\r'
        | 't' => '\t'
        | 'v' => '\x0b'
        | c => c
      (meant, true) :: unescaped limit rest
  | limit + 1, c :: rest => (c, false) :: unescaped limit rest

def enclosed? (mark : Char) : List Glob.Sign → Option (Bytes × List Glob.Sign)
  | (c, isLiteral) :: (d, isLiteral') :: rest =>
    if c == mark && !isLiteral && d == ']' && !isLiteral' then some ([], rest)
    else (enclosed? mark ((d, isLiteral') :: rest)).map fun p => (c :: p.1, p.2)
  | _ => none

def repetition? (c : Char) (text : List Glob.Sign) :
    Option (Except String (Piece × List Glob.Sign)) :=
  let body := text.takeWhile fun s => s.1 != ']' && !s.2
  match text.drop body.length with
  | (']', false) :: rest =>
    let digits := body.map (·.1)
    let base := if digits.head? == some '0' then 8 else 10
    let isDigit (d : Char) : Bool := d.isDigit && decide (d.toNat - 48 < base)
    if digits.all isDigit then
      let n := digits.foldl (fun n d => n * base + (d.toNat - 48)) 0
      some (.ok (.repeated c (if n = 0 then none else some n), rest))
    else
      some (.error ("invalid repeat count " ++ inRoundQuotes digits ++ " in [c*n] construct"))
  | _ => none

def bracketed? (text : List Glob.Sign) : Option (Except String (Piece × List Glob.Sign)) :=
  let repetition : Option (Except String (Piece × List Glob.Sign)) := match text with
    | (c, _) :: ('*', false) :: rest => repetition? c rest
    | _ => none
  let enclosed : Option (Except String (Piece × List Glob.Sign)) := match text with
    | (':', false) :: rest =>
      (enclosed? ':' rest).map fun (name, after) =>
        let name := String.ofList name
        if Glob.classNames.contains name then .ok (.named name, after)
        else if name.isEmpty then .error "missing character class name '[::]'"
        else .error ("invalid character class " ++ inRoundQuotes name.toList)
    | ('=', false) :: rest =>
      (enclosed? '=' rest).map fun (name, after) =>
        match name with
        | [c] => .ok (.like c, after)
        | [] => .error "missing equivalence class character '[==]'"
        | name => .error
          (shown name ++ ": equivalence class operand must be a single character")
    | _ => none
  match enclosed with
  | some (.error e) => if repetition.isSome then repetition else some (.error e)
  | some found => some found
  | none => repetition

def charsBetween (low high : Char) : List Char :=
  (List.range (high.toNat + 1 - low.toNat)).map fun i => Char.ofNat (low.toNat + i)

def piecesOf : Nat → List Glob.Sign → Except String (List Piece)
  | 0, _ => .ok []
  | _ + 1, [] => .ok []
  | limit + 1, (c, literal) :: rest => do
    match (if c == '[' && !literal then bracketed? rest else none) with
    | some found =>
      let (piece, after) ← found
      return piece :: (← piecesOf limit after)
    | none =>
      match rest with
      | ('-', false) :: (d, _) :: after =>
        if d < c then
          throw ("range-endpoints of '" ++ shown [c, '-', d] ++
            "' are in reverse collating sequence order")
        return .chars (charsBetween c d) :: (← piecesOf limit after)
      | _ => return .chars [c] :: (← piecesOf limit rest)

def allBytes : List Char :=
  (List.range 256).map Char.ofNat

def classChars (name : String) : List Char :=
  match Glob.classOf? name with
  | some has => allBytes.filter has
  | none => []

def Piece.letters (fill : Nat) : Piece → List Char
  | .chars cs => cs
  | .like c => [c]
  | .named name => classChars name
  | .repeated c count => List.replicate (count.getD fill) c

def expanded (fill : Nat) (pieces : List Piece) : List Char :=
  pieces.flatMap (·.letters fill)

def Piece.isClass : Piece → Bool
  | .named _ => true
  | _ => false

def Piece.isFilling : Piece → Bool
  | .repeated _ none => true
  | _ => false

def Piece.isCase : Piece → Bool
  | .named name => name == "upper" || name == "lower"
  | _ => false

def casePlaces (fill : Nat) (pieces : List Piece) : List Nat :=
  (pieces.foldl
    (fun (places, place) piece =>
      (if piece.isCase then place :: places else places, place + (piece.letters fill).length))
    (([] : List Nat), 0)).1

structure Task where
  table : Array (Option Char)
  squeezed : List Char

def secondSet (complement truncates : Bool) (first second : List Piece) (domain : List Char) :
    Except String (List Char) := do
  let known := (expanded 0 second).length
  if 1 < second.countP Piece.isFilling then
    throw "only one [c*] repeat construct may appear in string2"
  let isLike (p : Piece) : Bool := match p with
    | .like _ => true
    | _ => false
  if second.any isLike then
    throw "[=c=] expressions may not appear in string2 when translating"
  let fill := domain.length - known
  let image := expanded fill second
  if second.any fun p => p.isClass && !p.isCase then
    throw ("when translating, the only character classes that may appear in\n" ++
      "string2 are 'upper' and 'lower'")
  let fits := (casePlaces fill second).all (casePlaces 0 first).contains
  if !complement && !fits then
    throw "misaligned [:upper:] and/or [:lower:] construct"
  let whole ← match image.getLast? with
    | none =>
      if truncates then pure image else throw "when not truncating set1, string2 must be non-empty"
    | some last =>
      if truncates then pure image
      else if image.length < domain.length && (second.getLast?.map Piece.isClass).getD false then
        throw ("when translating with string1 longer than string2,\n" ++
          "the latter string must not end with a character class")
      else pure (image ++ List.replicate (domain.length - image.length) last)
  if complement && first.any Piece.isClass && 1 < image.eraseDups.length then
    throw ("when translating with complemented character classes,\n" ++
      "string2 must map all characters in the domain to one")
  return whole

def tableOf (pairs : List (Char × Option Char)) : Array (Option Char) :=
  pairs.foldl (fun table (c, image) => table.setIfInBounds c.toNat image)
    (allBytes.map some).toArray

def taskOf (o : Options) (sets : List Bytes) : Except String Task := do
  let pieces ← sets.mapM fun set => piecesOf set.length (unescaped set.length set)
  let first := pieces.headD []
  let complement := o.has 'c' || o.has 'C'
  if first.any Piece.isFilling then
    throw "the [c*] repeat construct may not appear in string1"
  let written := expanded 0 first
  let domain := if complement then allBytes.filter (!written.contains ·) else written
  match pieces[1]? with
  | none =>
    if o.has 'd' then return ⟨tableOf (domain.map (·, none)), []⟩
    else return ⟨tableOf [], domain⟩
  | some second =>
    if o.has 'd' then return ⟨tableOf (domain.map (·, none)), expanded 0 second⟩
    let image ← secondSet complement (o.has 't') first second domain
    let squeezed := if o.has 's' then image else []
    return ⟨tableOf (domain.zip (image.map some)), squeezed⟩

def Task.apply (t : Task) (text : Bytes) : Bytes :=
  let changed := text.filterMap fun c => t.table.getD c.toNat (some c)
  if t.squeezed.isEmpty then changed
  else
    let once := (allBytes.map t.squeezed.contains).toArray
    (changed.foldl
      (fun before c =>
        if before.head? == some c && once.getD c.toNat false then before else c :: before)
      []).reverse

def misfit? (o : Options) (sets : List Bytes) : Option String :=
  let single := o.has 'd' && !o.has 's'
  let needsTwo := o.has 'd' == o.has 's'
  match sets with
  | [] => some "missing operand"
  | [a] =>
    if needsTwo then
      some ("missing operand after " ++ inRoundQuotes a ++
        (if o.has 'd' then "\nTwo strings must be given when both deleting and squeezing repeats."
          else "\nTwo strings must be given when translating."))
    else none
  | _ :: b :: more =>
    if single then
      some ("extra operand " ++ inRoundQuotes b ++
        (if more.isEmpty then
          "\nOnly one string may be given when deleting without squeezing repeats."
        else ""))
    else more.head?.map fun c => "extra operand " ++ inRoundQuotes c

end Translate

open Translate in
def tr (arguments : List Bytes) : Run Nat :=
  let long := [("complement", 'c'), ("delete", 'd'), ("squeeze-repeats", 's'),
    ("truncate-set1", 't')]
  withOptions "cCdst" long true 1 arguments fun o => do
    match misfit? o o.rest with
    | some message => misuse 1 message
    | none =>
      /- A backslash at the end stands for itself. -/
      for set in o.rest do
        if (set.reverse.takeWhile (· == '\\')).length % 2 == 1 then
          complain "warning: an unescaped backslash at end of string is not portable"
      match taskOf o o.rest with
      | .error message => refuse 1 message
      | .ok task =>
        match ← knownOf ['-'] with
        | .error e => refuse 1 ("read error: " ++ e.reason)
        | .ok text =>
          emit (task.apply text)
          return 0

end Gesture.Shell.Program
