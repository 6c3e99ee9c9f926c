import Gesture.Button
import Gesture.Log
import Gesture.Path
import Gesture.Text.Blank
import Gesture.Text.Case
import Gesture.Text.Utf8

namespace Gesture.Feed

abbrev Report := Identifier × Option Int

inductive Item where
  | report (r : Report)
  | malformed (line : String)
  deriving DecidableEq, Repr

def malformedMessage (line : String) : String :=
  "Malformed virtual button record " ++ Text.quoted line

def levelOf? (word : List Char) : Option Int :=
  let word := Text.lower word
  if word = "down".toList then some 1 else if word = "up".toList then some 0 else none

def itemOf? (line : List Char) : Option Item :=
  let line := Text.strip line
  if line.isEmpty || line.head? = some '#' then none
  else
    match Text.words line with
    | [name] => some (.report (.name (String.ofList name), none))
    | [name, word] =>
      match levelOf? word with
      | some level => some (.report (.name (String.ofList name), some level))
      | none => some (.malformed (String.ofList line))
    | _ => some (.malformed (String.ofList line))

def cut : List UInt8 → List (List UInt8) × List UInt8
  | [] => ([], [])
  | b :: rest =>
    let (lines, tail) := cut rest
    if b = 10 then ([] :: lines, tail)
    else
      match lines with
      | [] => ([], b :: tail)
      | line :: more => ((b :: line) :: more, tail)

def itemsOf (lines : List (List UInt8)) : List Item :=
  lines.filterMap fun line => itemOf? (Text.Utf8.decodeLossy line)

/-- The items of a stream that gives chunks after the bytes `pending`. The stream ends after the
    last chunk, or with an empty one. -/
def pumpAfter (pending : List UInt8) : List (List UInt8) → List Item
  | [] => []
  | chunk :: rest =>
    if chunk.isEmpty then []
    else
      let (lines, tail) := cut (pending ++ chunk)
      itemsOf lines ++ pumpAfter tail rest

def pump (chunks : List (List UInt8)) : List Item :=
  pumpAfter [] chunks

def reports (items : List Item) : List Report :=
  items.filterMap fun
    | .report r => some r
    | .malformed _ => none

def warnings (pipe : Path) (items : List Item) : List LogLine :=
  items.filterMap fun
    | .report _ => none
    | .malformed line =>
      some ⟨.warning, "Ignoring bad record from " ++ pipe.shown, some (malformedMessage line)⟩

def listening (pipe : Path) : LogLine :=
  ⟨.debug, "Listening on " ++ pipe.shown, none⟩

end Gesture.Feed
