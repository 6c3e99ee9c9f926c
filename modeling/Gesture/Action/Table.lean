import Gesture.Action
import Gesture.Text.Lines

namespace Gesture.Action

structure Parts where
  action : String
  pattern : String
  condition : String
  deriving DecidableEq, Repr

def joinPieces (pieces : List (List Char)) : String :=
  String.ofList ([','].intercalate pieces)

def splitsAfter (before : List (List Char)) : List (List Char) → List Parts
  | pattern :: condition :: rest =>
    ⟨joinPieces before, String.ofList pattern, joinPieces (condition :: rest)⟩ ::
      splitsAfter (before ++ [pattern]) (condition :: rest)
  | _ => []

def splits (text : List Char) : List Parts :=
  match Text.splitAt ',' text with
  | [] => []
  | first :: rest => splitsAfter [first] rest

def ofParts (parts : Parts) : Except ReadError Action := do
  let kind ← Kind.parse parts.action
  let pattern ←
    match Grammar.parse parts.pattern with
    | .ok pattern => pure pattern
    | .error e => throw (.refused (.badPattern parts.pattern e))
  if pattern.isEmpty then throw (.refused .emptyPattern)
  let condition ← Condition.parse parts.condition
  return ⟨parts.action, kind, pattern, condition,
    String.ofList (Text.strip parts.condition.toList)⟩

/-- The action of the first split that is not refused. If all are, the refusal of the last counts;
    `refusal` is the latest so far. -/
def firstOf (refusal : Refusal) : List Parts → Except ReadError Action
  | [] => .error (.refused refusal)
  | parts :: rest =>
    match ofParts parts with
    | .error (.refused r) => firstOf r rest
    | result => result

def parseLine (line : String) : Except ReadError Action :=
  let start := "action=".toList
  if start.isPrefixOf line.toList then
    firstOf (.missingParts line) (splits (line.toList.drop start.length))
  else .error (.refused (.notAnAction line))

def body? (line : List Char) : Option String :=
  let body := Text.strip line
  if body.isEmpty || body.head? = some '#' then none else some (String.ofList body)

/-- The actions of the lines that are neither blank nor comments, in order. The first line has the
    given number. -/
def parseLines (number : Nat) : List (List Char) → Except ReadError (List Action)
  | [] => .ok []
  | line :: rest =>
    let body := Text.strip line
    if body.isEmpty || body.head? = some '#' then parseLines (number + 1) rest
    else
      match parseLine (String.ofList body) with
      | .error (.refused r) => .error (.refused (.atLine number r))
      | .error (.beyond l) => .error (.beyond l)
      | .ok action => (parseLines (number + 1) rest).map (action :: ·)

def compile (config : String) : Except ReadError (List Action) :=
  (parseLines 1 (Text.lines config.toList)).map (·.mergeSort ranksBefore)

end Gesture.Action
