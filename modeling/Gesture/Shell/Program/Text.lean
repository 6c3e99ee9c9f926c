import Gesture.Shell.Program.Basic
import Gesture.Shell.Regular

namespace Gesture.Shell.Program

def forInput (descriptor : Nat) (handle : Bytes → Run Unit) : Run (Option FileError) :=
  iterate .stalled
    (fun (count : Nat) => do
      if 64 ≤ count && (← Run.isEndless descriptor) then Run.writeForever 1
      match ← Run.receive descriptor 65536 with
      | .error e => return .inr (some e)
      | .ok [] => return .inr none
      | .ok bytes =>
        handle bytes
        return .inl (count + 1))
    10000000 0

def passFile (handle : Bytes → Run Unit) (path : Bytes) : Run Bool := do
  let complained (e : FileError) : Run Bool := do
    complain (named path ++ ": " ++ e.reason)
    return false
  match ← openInput path with
  | .error e => complained e
  | .ok d =>
    match ← forInput d handle with
    | some e => complained e
    | none => return true

def visible (tabs : Bool) (c : Char) : Bytes :=
  let low (n : Nat) : Bytes :=
    if n = 0x7F then ['^', '?'] else if n < 0x20 then ['^', Char.ofNat (n + 0x40)]
    else [Char.ofNat n]
  if c == '\n' then ['\n']
  else if c == '\t' then if tabs then ['^', 'I'] else ['\t']
  else if 0x80 ≤ c.toNat then 'M' :: '-' :: low (c.toNat - 0x80)
  else low c.toNat

structure CatStyle where
  number : Bool
  numberFilled : Bool
  ends : Bool
  squeeze : Bool
  nonprinting : Bool
  tabs : Bool

def catLines (style : CatStyle) : List Bytes → Nat → Bool → Bytes
  | [], _, _ => []
  | line :: rest, number, afterEmpty =>
    if line.isEmpty && rest.isEmpty then []
    else if style.squeeze && afterEmpty && line.isEmpty then catLines style rest number true
    else
      let counts := style.number || (style.numberFilled && !line.isEmpty)
      let mark := if counts && style.numberFilled && line.isEmpty then []
        else if counts then padLeft ' ' 6 (Run.number number) ++ ['\t'] else []
      let shownLine := if style.nonprinting then line.flatMap (visible style.tabs)
        else if style.tabs then line.flatMap fun c => if c == '\t' then ['^', 'I'] else [c]
        else line
      let ending := if rest.isEmpty then [] else if style.ends then ['$', '\n'] else ['\n']
      mark ++ shownLine ++ ending ++
        catLines style rest (if counts then number + 1 else number) line.isEmpty

def cat (arguments : List Bytes) : Run Nat :=
  let long := [("number", 'n'), ("number-nonblank", 'b'), ("show-ends", 'E'), ("show-all", 'A'),
    ("squeeze-blank", 's'), ("show-tabs", 'T'), ("show-nonprinting", 'v')]
  withOptions "nbEAsTvetu" long false 1 arguments fun o => do
    let all := o.has 'A'
    let style : CatStyle :=
      { number := o.has 'n' && !o.has 'b'
        numberFilled := o.has 'b'
        ends := o.has 'E' || o.has 'e' || all
        squeeze := o.has 's'
        nonprinting := o.has 'v' || o.has 'e' || o.has 't' || all
        tabs := o.has 'T' || o.has 't' || all }
    if o.letters.all (·.1 == 'u') then
      let paths := if o.rest.isEmpty then [['-']] else o.rest
      let good ← paths.mapM (passFile emit)
      return if good.all id then 0 else 1
    else
      let (inputs, good) ← streamsOf o.rest
      emit (catLines style ((inputs.flatMap (·.2)).splitOn '\n') 1 false)
      return if good then 0 else 1

def tee (arguments : List Bytes) : Run Nat :=
  withOptions "aip" [("append", 'a'), ("ignore-interrupts", 'i')] false 1 arguments fun o => do
    let opened ← o.rest.mapM fun path => do
      match ← Run.openFile (if o.has 'a' then .append else .overwrite) path with
      | .ok number => return some number
      | .error e =>
        complain (named path ++ ": " ++ e.reason)
        return none
    let numbers := opened.filterMap id
    numbers.forM fun number => Run.update fun p =>
      { p with descriptors := Run.bound (100 + number) number p.descriptors }
    let _ ← forInput 0 fun bytes => do
      emit bytes
      numbers.forM fun number => Run.say (100 + number) bytes
    return if opened.all (·.isSome) then 0 else 1

def yes (arguments : List Bytes) : Run Nat := do
  let line := (if arguments.isEmpty then ['y'] else [' '].intercalate arguments) ++ ['\n']
  emit (List.replicate (16384 / line.length + 1) line).flatten
  Run.writeForever 1

end Gesture.Shell.Program
