import Gesture.Shell.Program.Date.Format
import Gesture.Shell.Program.Date.Reading
import Gesture.Shell.Program.Entry

namespace Gesture.Shell.Program

namespace Date

def startOfScripts : Int := 1795000000

def zoneOf? (text : Bytes) : Option (String × Int) := do
  let (name, rest) := match text with
    | '<' :: rest => (rest.takeWhile (· != '>'), (rest.dropWhile (· != '>')).drop 1)
    | _ => text.span Char.isAlpha
  if name.length < 3 then none
  let (behind, rest) := match rest with
    | '-' :: rest => (false, rest)
    | '+' :: rest => (true, rest)
    | rest => (true, rest)
  let parts := rest.splitOn ':'
  if 3 < parts.length || parts.any (fun p => p.isEmpty || !p.all Char.isDigit) then none
  let values := parts.map fun p => p.foldl (fun n c => 10 * n + (c.toNat - 48)) 0
  let seconds : Nat := values.headD 0 * 3600 + values.getD 1 0 * 60 + values.getD 2 0
  return (String.ofList name, if behind then -(seconds : Int) else seconds)

def inZone (zone : String × Int) (nanoseconds : Int) : Moment :=
  { seconds := nanoseconds / 1000000000
    nanoseconds := (nanoseconds % 1000000000).toNat
    ahead := zone.2
    zone := zone.1 }

def precision? (between : String) (comma : String) (name : Bytes) : Option String :=
  let names := [("ns", "%H:%M:%S" ++ comma ++ "%N%:z"), ("date", ""), ("hours", "%H%:z"),
    ("minutes", "%H:%M%:z"), ("seconds", "%H:%M:%S%:z")]
  let found := names.filter fun n => name.isPrefixOf n.1.toList
  match found with
  | (_, time) :: _ => some (if time.isEmpty then "%Y-%m-%d" else "%Y-%m-%d" ++ between ++ time)
  | [] => none

end Date

open Date in
def date (arguments : List Bytes) : Run Nat :=
  let long := [("date", 'd'), ("file", 'f'), ("iso-8601", 'I'), ("reference", 'r'),
    ("rfc-email", 'R'), ("rfc-822", 'R'), ("rfc-2822", 'R'), ("rfc-3339", '3'), ("set", 's'),
    ("utc", 'u'), ("uct", 'u'), ("universal", 'u'), ("debug", 'D'), ("resolution", 'o')]
  withOptions "d:f:I::r:Rs:u3:Do" long false 1 arguments fun o => do
    let p ← Run.process
    let zoneText? := if o.has 'u' then none else Run.valueOf p "TZ"
    let zone := (zoneText?.bind zoneOf?).getD ("UTC", 0)
    let now := inZone zone (startOfScripts * 1000000000 + p.now * 1000)
    let precisely (option between comma : String) (known : List String) (name : Bytes) :
        Run (Option Bytes) := do
      match precision? between comma name with
      | some format => return some format.toList
      | none =>
        let lines := known.map fun k => "  - " ++ inRoundQuotes k.toList ++ "\n"
        let _ ← misuse 1 ("invalid argument " ++ inRoundQuotes name ++ " for " ++
          inRoundQuotes option.toList ++ "\nValid arguments are:\n" ++
          ("".intercalate lines).dropEnd 1)
        Run.setStatus 1
        throw .finished
    let chosen ← match o.last? 'I', o.last? '3' with
      | some name, _ =>
        precisely "--iso-8601" "T" "," ["hours", "minutes", "date", "seconds", "ns"]
          (if name.isEmpty then "date".toList else name)
      | none, some name => precisely "--rfc-3339" " " "." ["date", "seconds", "ns"] name
      | none, none =>
        pure (if o.has 'R' then some "%a, %d %b %Y %H:%M:%S %z".toList else none)
    let show' (format : Bytes) : Run Nat := do
      let tell (text : Bytes) : Run Nat := do
        match moment? now text with
        | none => refuse 1 ("invalid date " ++ inRoundQuotes text)
        | some n =>
          emitLine (formatted (inZone zone n) format)
          return 0
      match o.last? 'd', o.last? 'f' with
      | some text, _ => tell text
      | none, some path =>
        match ← contentsOf path with
        | .error e => refuse 1 (named path ++ ": " ++ e.reason)
        | .ok text =>
          (linesOf text).foldlM (fun status line => do return max status (← tell line)) 0
      | none, none =>
        match o.last? 'r' with
        | none =>
          emitLine (formatted now format)
          return 0
        | some path =>
          let m ← get
          match m.tree.lookItem m.process.working path true with
          | .error e => refuse 1 (named path ++ ": " ++ e.reason)
          | .ok item =>
            emitLine (formatted (inZone zone (startOfScripts * 1000000000 + item.time * 1000)) format)
            return 0
    match o.rest, chosen with
    | _ :: extra :: _, _ => misuse 1 ("extra operand " ++ inRoundQuotes extra)
    | [], some format => show' format
    | [], none => show' "%a %b %e %H:%M:%S %Z %Y".toList
    | [('+' :: format)], none => show' format
    | [('+' :: _)], some _ => refuse 1 "multiple output formats specified"
    | [other], _ =>
      if o.has 'd' || o.has 'f' then
        misuse 1 ("the argument " ++ inRoundQuotes other ++ " lacks a leading '+';\n" ++
          "when using an option to specify date(s), any non-option\n" ++
          "argument must be a format string beginning with '+'")
      else refuse 1 ("invalid date " ++ inRoundQuotes other)

end Gesture.Shell.Program
