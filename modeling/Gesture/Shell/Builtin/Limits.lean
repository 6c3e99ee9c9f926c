import Gesture.Shell.Builtin.Basic

namespace Gesture.Shell.Builtin

structure Resource where
  letter : Char
  name : String
  factor : Nat
  initial : Limit

def Resource.plain (letter : Char) (name : String) (factor : Nat) : Resource :=
  ⟨letter, name, factor, ⟨none, none⟩⟩

def resources : List Resource :=
  [.plain 't' "time(seconds)" 1, .plain 'f' "file(blocks)" 512, .plain 'd' "data(kbytes)" 1024,
    ⟨'s', "stack(kbytes)", 1024, ⟨some 8388608, none⟩⟩,
    ⟨'c', "coredump(blocks)", 512, ⟨some 0, none⟩⟩,
    .plain 'm' "memory(kbytes)" 1024,
    ⟨'l', "locked memory(kbytes)", 1024, ⟨some 8388608, some 8388608⟩⟩,
    .plain 'p' "process" 1, ⟨'n', "nofiles", 1, ⟨some 1048576, some 1048576⟩⟩,
    .plain 'v' "vmemory(kbytes)" 1024, .plain 'w' "locks" 1,
    ⟨'r', "rtprio", 1, ⟨some 0, some 0⟩⟩]

def limitOf (p : Process) (r : Resource) : Limit :=
  (p.limits.lookup r.letter).getD r.initial

def limitText (r : Resource) (bound : Option Nat) : Bytes :=
  match bound with
  | none => "unlimited".toList
  | some n => Run.number (n / r.factor)

def bound? (r : Resource) (text : Bytes) : Option (Option Nat) :=
  if text == "unlimited".toList then some none
  else if text.all Char.isDigit then some (some (Text.decimalValue text * r.factor))
  else none

def isWithin (a b : Option Nat) : Bool :=
  match a, b with
  | _, none => true
  | none, some _ => false
  | some m, some n => decide (m ≤ n)

def setLimit (r : Resource) (soft hard : Bool) (bound : Option Nat) : Run Nat := do
  let old := limitOf (← Run.process) r
  let new : Limit :=
    ⟨if soft then bound else old.soft, if hard then bound else old.hard⟩
  let refused (e : String) : Run Nat :=
    Run.failWith ("error setting limit (".toList ++ e.toList ++ [')'])
  if !isWithin new.soft new.hard then refused "Invalid argument"
  else if !isWithin new.hard old.hard then refused "Operation not permitted"
  else
    Run.update fun p => { p with limits := (r.letter, new) :: p.limits.filter (·.1 != r.letter) }
    return 0

def changeLimit (arguments : List Bytes) : Run Nat := do
  let (options, rest) ← optionsOf "HSatfdscmlpnvwr" arguments
  let has (c : Char) : Bool := options.any (·.1 == c)
  let soft := has 'S' || !has 'H'
  let hard := has 'H' || !has 'S'
  let letters := (options.map (·.1)).filter fun c => c != 'H' && c != 'S' && c != 'a'
  let letter := letters.getLast?.getD 'f'
  let shown (r : Resource) : Run Bytes := do
    let limit := limitOf (← Run.process) r
    return limitText r (if soft then limit.soft else limit.hard)
  match rest, resources.find? (·.letter == letter) with
  | [], some r =>
    if has 'a' then
      resources.forM fun r => do
        let name := r.name.toList
        let gap := List.replicate (20 - name.length) ' '
        outLine (name ++ gap ++ ' ' :: (← shown r))
    else outLine (← shown r)
    return 0
  | [text], some r =>
    if has 'a' then Run.failWith "too many arguments".toList
    match bound? r text with
    | none => Run.failWith "bad number".toList
    | some bound => setLimit r soft hard bound
  | _, _ => Run.failWith "too many arguments".toList

end Gesture.Shell.Builtin
