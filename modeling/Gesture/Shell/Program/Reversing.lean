import Gesture.Shell.Program.Basic
import Gesture.Shell.Regular

namespace Gesture.Shell.Program

namespace Tac

/-- The records of a text, last one first, as separators that do not overlap divide it; they are
    looked for from the end on. The text and the separator are given backwards. A separator belongs to
    the record before it, or to the one after it if it `leads`. -/
def records (leads : Bool) (separator : Bytes) : Nat → Bytes → Bytes → List Bytes
  | 0, record, _ => [record]
  | _ + 1, record, [] => [record]
  | limit + 1, record, c :: before =>
    if separator.isPrefixOf (c :: before) then
      let rest := (c :: before).drop separator.length
      if leads then
        (separator.reverse ++ record) :: records leads separator limit [] rest
      else record :: records leads separator limit separator.reverse rest
    else records leads separator limit (c :: record) before

/-- An expression in which groups and alternatives have a backslash, and repetitions have none, in the
    writing in which none of them has one. -/
def extendedForm : Nat → Bytes → Bytes
  | 0, text => text
  | limit + 1, text =>
    match text with
    | '\\' :: c :: rest =>
      if "(|)".toList.contains c then c :: extendedForm limit rest
      else '\\' :: c :: extendedForm limit rest
    | '[' :: first :: rest =>
      let inside := rest.takeWhile (· != ']')
      '[' :: first :: inside ++ extendedForm limit (rest.drop inside.length)
    | c :: rest =>
      if "(|)\x7b\x7d".toList.contains c then '\\' :: c :: extendedForm limit rest
      else c :: extendedForm limit rest
    | [] => []

def matchBefore? (e : Regular.Expr) (subject : Regular.Subject) : Nat → Option (Nat × Nat)
  | 0 => none
  | place + 1 =>
    match Regular.matchAt? e subject place with
    | some state => some (place, state.place)
    | none => matchBefore? e subject place

/-- The records of a text that matches of an expression divide, from `past` back to the start. -/
def matchedRecords (leads : Bool) (e : Regular.Expr) (text : Array Char) :
    Nat → Nat → Nat → List Bytes
  | 0, past, _ => [Regular.narrow (text.extract 0 past).toList]
  | limit + 1, past, place =>
    match matchBefore? e { text := text.extract 0 place, multiline := true } place with
    | none => [Regular.narrow (text.extract 0 past).toList]
    | some (start, stop) =>
      let cut := if leads then start else stop
      Regular.narrow (text.extract cut past).toList ::
        matchedRecords leads e text limit cut start

end Tac

open Tac in
def tac (arguments : List Bytes) : Run Nat :=
  let long := [("separator", 's'), ("before", 'b'), ("regex", 'r')]
  withOptions "s:br" long false 1 arguments fun o => do
    let given := (o.last? 's').getD ['\n']
    let separator := if given.isEmpty then ['\x00'] else given
    let leads := o.has 'b'
    let split : Except String (Bytes → List Bytes) :=
      if !o.has 'r' then
        .ok fun text => records leads separator.reverse (text.length + 1) [] text.reverse
      else if given.isEmpty then .error "separator cannot be empty"
      else
        match Regular.compile { extended := true }
            (Regular.wide (extendedForm separator.length separator)) with
        | .error e => .error e.message
        | .ok c => .ok fun text =>
          let wide := (Regular.wide text).toArray
          matchedRecords leads c.expr wide (wide.size + 1) wide.size wide.size
    match split with
    | .error message => refuse 1 message
    | .ok split =>
      let results ← (if o.rest.isEmpty then [['-']] else o.rest).mapM fun path => do
        let name := if path == ['-'] then "standard input".toList else path
        match ← openInput path with
        | .error e =>
          complain ("failed to open " ++ inQuotes name ++ " for reading: " ++ e.reason)
          return false
        | .ok d =>
          match ← Run.receiveAll d with
          | .error _ =>
            complain (named name ++ ": read error: " ++ FileError.invalid.reason)
            return false
          | .ok text =>
            emit (split text).flatten
            return true
      return if results.all id then 0 else 1

def rev (arguments : List Bytes) : Run Nat :=
  withOptions "0" [("zero", '0')] false 1 arguments fun o => do
    let ending := if o.has '0' then '\x00' else '\n'
    let turn (descriptor : Nat) : Run Bool := do
      match ← Run.receiveKnown descriptor with
      | .error _ => throw .stalled
      | .ok (text, endless) =>
        let turned := (text.splitOn ending).map fun l => Regular.narrow (Regular.wide l).reverse
        emit ([ending].intercalate turned)
        if endless then Run.update fun p => { p with unfinished := true }
        return true
    let results ←
      if o.rest.isEmpty then do pure [← turn 0]
      else
        o.rest.mapM fun path => do
          match ← Run.openFile .read path with
          | .error e =>
            complain ("cannot open " ++ shown path ++ ": " ++ e.reason)
            return false
          | .ok number =>
            Run.update fun p => { p with descriptors := Run.bound 100 number p.descriptors }
            turn 100
    return if results.all id then 0 else 1

end Gesture.Shell.Program
