import Gesture.Shell.Decimal
import Gesture.Shell.Format
import Gesture.Shell.Program.Awk.Real
import Gesture.Shell.Program.Awk.Syntax
import Gesture.Shell.Variables

namespace Gesture.Shell.Program.Awk

inductive Value where
  | missing
  | number (x : Binary64)
  | text (t : Bytes)
  | input (t : Bytes)
  deriving DecidableEq, Repr

def numberIn (t : Bytes) : Binary64 :=
  match Decimal.scan? t with
  | some (x, _) => x
  | none => .zero

def wholeNumber? (t : Bytes) : Option Binary64 :=
  match Decimal.scan? t with
  | some (x, rest) => if rest.all Number.isBlank then some x else none
  | none => none

def Value.toNumber : Value → Binary64
  | .missing => .zero
  | .number x => x
  | .text t | .input t => numberIn t

def largestWhole : Nat := 2147483647

def shortWhole? (x : Binary64) : Option Int :=
  match x.toInt? with
  | some n => if n.natAbs ≤ largestWhole then some n else none
  | none => none

def numberText (format : Bytes) (x : Binary64) : Bytes :=
  match x with
  | .nan => "nan".toList
  | .infinite negative => if negative then "-inf".toList else "inf".toList
  | x =>
    match shortWhole? x with
    | some n => Number.shown n
    | none => (Format.printf [format, x.chars]).text

def Value.toText (format : Bytes) : Value → Bytes
  | .missing => []
  | .number x => numberText format x
  | .text t | .input t => t

def Value.comparable? : Value → Option Binary64
  | .missing => some .zero
  | .number x => some x
  | .text _ => none
  | .input t => wholeNumber? t

def Value.isTrue : Value → Bool
  | .missing => false
  | .number x => x.isNonzero
  | .text t => !t.isEmpty
  | .input t =>
    match wholeNumber? t with
    | some x => x.isNonzero
    | none => !t.isEmpty

def truth (b : Bool) : Value :=
  .number (Binary64.ofInt (if b then 1 else 0))

def order? (a b : Binary64) : Option Ordering :=
  let rank (x : Binary64) : Int × Int := match x with
    | .finite negative units => (0, if negative then -(units : Int) else units)
    | .infinite negative => (if negative then -1 else 1, 0)
    | .nan => (0, 0)
  if a == .nan || b == .nan then none
  else some ((compare (rank a).1 (rank b).1).then (compare (rank a).2 (rank b).2))

def divide (a b : Binary64) : Binary64 :=
  match a, b with
  | .nan, _ | _, .nan => .nan
  | .infinite _, .infinite _ => .nan
  | .infinite m, .finite n _ => .infinite (m != n)
  | .finite .., .infinite _ => .zero
  | .finite m u, .finite n v =>
    if v = 0 then if u = 0 then .nan else .infinite (m != n) else Binary64.ofRatio (m != n) u v

def modulo (a b : Binary64) : Binary64 :=
  match a, b with
  | .finite m u, .finite _ v => if v = 0 then .nan else .finite m (u % v)
  | .finite m u, .infinite _ => .finite m u
  | _, _ => .nan

def root (x : Binary64) : Binary64 :=
  match x with
  | .finite false units =>
    /- So many more digits are worked out that rounding them is right. -/
    let scale := Nat.pow 2 200
    Binary64.ofRatio false (Nat.sqrt (units * Binary64.one * scale * scale)) (Binary64.one * scale)
  | .finite true 0 => x
  | .infinite false => x
  | _ => .nan

def power (base exponent : Binary64) : Binary64 :=
  match base, exponent.toInt? with
  | _, some 0 => Binary64.ofInt 1
  | .finite negative units, some n =>
    let size := n.natAbs
    let isNegative := negative && size % 2 == 1
    if units = 0 then if 0 < n then .zero else .infinite isNegative
    else if units = Binary64.one then .finite isNegative units
    else if 1100 < size then
      /- Far away from one, large powers leave the range; near one, logarithms are good enough. -/
      let (parts, twos) := Real.exp (n * Real.log (Real.ofBinary (.finite false units)))
      let x := Real.scaled parts twos
      if isNegative then x.neg else x
    else
      let one := Binary64.one
      let reduced := Nat.gcd units one
      let num := Nat.pow (units / reduced) size
      let den := Nat.pow (one / reduced) size
      if 0 < n then Binary64.ofRatio isNegative num den else Binary64.ofRatio isNegative den num
  | .finite false units, none =>
    match exponent with
    | .finite .. =>
      if units = 0 then .zero
      else
        let log := Real.log (Real.ofBinary base)
        let (parts, twos) := Real.exp (Real.mul log (Real.ofBinary exponent))
        Real.scaled parts twos
    | _ => .nan
  | .infinite _, some n => if 0 < n then .infinite false else .zero
  | _, _ => .nan

def Operator.apply (o : Operator) (a b : Binary64) : Binary64 :=
  match o with
  | .add => a + b
  | .subtract => a - b
  | .multiply => a * b
  | .divide => Awk.divide a b
  | .modulo => Awk.modulo a b
  | .power => Awk.power a b

def whole (x : Binary64) : Binary64 :=
  match x with
  | .finite negative units => .finite negative (units / Binary64.one * Binary64.one)
  | x => x

def integerOf (x : Binary64) : Int :=
  match x with
  | .finite negative units =>
    let n : Int := (min (units / Binary64.one) largestWhole : Nat)
    if negative then -n else n
  | .infinite false => largestWhole
  | .infinite true | .nan => -(largestWhole : Int)

def naturalOf (x : Binary64) : Nat :=
  match x with
  | .finite false units => min (units / Binary64.one) 4294967295
  | .infinite false => 4294967295
  | x => (integerOf x % 4294967296).toNat

def logarithm (x : Binary64) : Binary64 :=
  match x with
  | .finite negative units =>
    if units = 0 then .infinite true
    else if negative then .nan
    else Real.toBinary (Real.log (units * Real.unit.toNat / Binary64.one : Nat))
  | .infinite false => x
  | _ => .nan

def exponential (x : Binary64) : Binary64 :=
  match x with
  | .finite .. =>
    let (parts, twos) := Real.exp (Real.ofBinary x)
    Real.scaled parts twos
  | .infinite true => .zero
  | x => x

/-- An array. The order of its keys in loops depends on how they were used: numbers and texts have
    lists of their own, latest use first. -/
structure Table where
  values : List (Bytes × Value) := []
  numbers : List Int := []
  texts : List Bytes := []
  hasTexts : Bool := false
  isSplit : Bool := false

inductive Key where
  | number (n : Int)
  | text (t : Bytes)
  deriving DecidableEq, Repr

def Key.shown : Key → Bytes
  | .number n => Number.shown n
  | .text t => t

def slots : Nat := 64

def slotOf (t : Bytes) : Nat :=
  t.foldl (fun h c => (h * 16777619 % 4294967296) ^^^ c.toNat) 2166136261 % slots

def bySlot {α : Type} (slot : α → Nat) (items : List α) : List α :=
  items.mergeSort fun a b => decide (slot a ≤ slot b)

def Table.named (t : Table) : Table :=
  if t.hasTexts then t
  else
    let inOrder := bySlot (fun (n : Int) => (n % slots).toNat) t.numbers
    let texts := inOrder.foldl
      (fun texts n =>
        let text := Number.shown n
        if texts.contains text then texts else text :: texts)
      t.texts
    { t with texts, hasTexts := true, isSplit := false }

def Table.touch (t : Table) (k : Key) : Table :=
  match k with
  | .text s =>
    let t := t.named
    { t with texts := s :: t.texts.erase s }
  | .number n =>
    if t.isSplit && t.numbers.contains n then t
    else if t.numbers.contains n then { t with numbers := n :: t.numbers.erase n }
    else if t.hasTexts then
      let s := Number.shown n
      { t with numbers := n :: t.numbers, texts := s :: t.texts.erase s }
    else { t with numbers := n :: t.numbers, isSplit := false }

def Table.has (t : Table) (k : Key) : Bool :=
  (t.values.lookup k.shown).isSome

def Table.get (t : Table) (k : Key) : Value × Table :=
  let touched := t.touch k
  match t.values.lookup k.shown with
  | some v => (v, touched)
  | none => (.missing, { touched with values := (k.shown, .missing) :: t.values })

def replaced (key : Bytes) (v : Value) : List (Bytes × Value) → List (Bytes × Value)
  | [] => [(key, v)]
  | (k, old) :: rest => if k == key then (k, v) :: rest else (k, old) :: replaced key v rest

def Table.put (t : Table) (k : Key) (v : Value) : Table :=
  let touched := t.touch k
  let values := if t.has k then replaced k.shown v t.values else (k.shown, v) :: t.values
  { touched with values }

def Table.remove (t : Table) (k : Key) : Table :=
  let s := k.shown
  if !t.has k then t
  else
    { t with
      values := t.values.filter (·.1 != s)
      texts := t.texts.erase s
      numbers := t.numbers.filter fun n => Number.shown n != s }

def Table.keys (t : Table) : List Bytes × Table :=
  let t := t.named
  (bySlot slotOf t.texts, t)

def Table.ofParts (parts : List Value) : Table :=
  { values := parts.zipIdx.map fun (v, i) => (Run.number (i + 1), v)
    numbers := (parts.zipIdx.map fun p => (p.2 : Int) + 1).reverse
    isSplit := true }

end Gesture.Shell.Program.Awk
