import Gesture.Shell.Program.Awk.Lexer
import Gesture.Shell.Program.Awk.Value
import Gesture.Shell.Program.Nested

namespace Gesture.Shell.Program.Awk

inductive Slot where
  | scalar (v : Value)
  | array (table : Nat)
  | unknown (table : Nat)

structure Stream where
  descriptor : Option Nat
  buffer : Bytes := []

inductive Sink where
  | descriptor (d : Nat)
  | command (parts : List Bytes)

structure State where
  globals : List (Bytes × Slot) := []
  locals : List (Bytes × Slot) := []
  tables : Array Table := #[]
  record : Bytes := []
  fields : Array Value := #[]
  stale : Bool := false
  input : Option Stream := none
  nextArgument : Nat := 1
  hasRead : Bool := false
  streams : List ((Bool × Bytes) × Stream) := []
  sinks : List ((Way × Bytes) × Sink) := []
  pending : List Bytes := []
  pendingSize : Nat := 0
  compiled : List (Bytes × Regular.Compiled) := []
  ranges : List Nat := []
  status : Nat := 0
  seed : Nat := 0

inductive Jump where
  | next
  | nextFile
  | exit
  | return (v : Value)
  | failed (message : String)

abbrev Course := ExceptT Jump (StateT State Run)

def run {α : Type} (action : Run α) : Course α :=
  ExceptT.lift (StateT.lift action)

def repeated {α : Type} (step : Course (Option α)) : Course α :=
  ExceptT.mk (untilDone do
    StateT.lift Run.step
    match ← step.run with
    | .error j => return some (.error j)
    | .ok none => return none
    | .ok (some a) => return some (.ok a))

def slot? (name : Bytes) : Course (Option Slot) := do
  let s ← get
  return (s.locals.lookup name).or (s.globals.lookup name)

def setSlot (name : Bytes) (slot : Slot) : Course Unit :=
  modify fun s =>
    if (s.locals.lookup name).isSome then { s with locals := Run.bound name slot s.locals }
    else { s with globals := Run.bound name slot s.globals }

def newTable : Course Nat :=
  modifyGet fun s => (s.tables.size, { s with tables := s.tables.push {} })

def tableOf (name : Bytes) : Course Nat := do
  match ← slot? name with
  | some (.array id) => return id
  | some (.unknown id) =>
    setSlot name (.array id)
    return id
  | some (.scalar _) => throw (.failed ("type error in " ++ String.ofList name))
  | none =>
    let id ← newTable
    setSlot name (.array id)
    return id

def table (id : Nat) : Course Table := do
  return (← get).tables.getD id {}

def setTable (id : Nat) (t : Table) : Course Unit :=
  modify fun s => { s with tables := s.tables.setIfInBounds id t }

def valueOf (name : String) : Course Value := do
  match (← get).globals.lookup name.toList with
  | some (.scalar v) => return v
  | _ => return .missing

def setValue (name : String) (v : Value) : Course Unit :=
  modify fun s => { s with globals := Run.bound name.toList (.scalar v) s.globals }

def textFormat : Course Bytes := do
  return (← valueOf "CONVFMT").toText []

def textOf (v : Value) : Course Bytes := do
  match v with
  | .number _ => return v.toText (← textFormat)
  | v => return v.toText []

def compile (text : Bytes) : Course Regular.Compiled := do
  let s ← get
  match s.compiled.lookup text with
  | some c => return c
  | none =>
    match Regular.compile .escaping text with
    | .ok c =>
      modify fun s => { s with compiled := (text, c) :: s.compiled.take 50 }
      return c
    | .error e => throw (.failed (complaintOf e text))

def subjectOf (text : Bytes) : Regular.Subject :=
  { text := text.toArray }

def matchesIn (c : Regular.Compiled) (subject : Regular.Subject) : Nat → Nat → List (Nat × Nat)
  | 0, _ => []
  | limit + 1, place =>
    match c.search? subject place with
    | none => []
    | some f =>
      if f.last = f.first then
        if f.first < subject.text.size then matchesIn c subject limit (f.first + 1) else []
      else (f.first, f.last) :: matchesIn c subject limit f.last

def partsBetween (text : Bytes) (start : Nat) : List (Nat × Nat) → List Bytes
  | [] => [text.drop start]
  | (first, last) :: rest => (text.take first).drop start :: partsBetween text last rest

inductive Separator where
  | blanks
  | chars
  | char (c : Char)
  | pattern (c : Regular.Compiled)

def isFieldBlank (c : Char) : Bool :=
  c == ' ' || c == '\t' || c == '\n'

def separatorOf (text : Bytes) : Course Separator := do
  match text with
  | [' '] => return .blanks
  | [] => return .chars
  | [c] => return .char c
  | _ => return .pattern (← compile text)

def Separator.split (s : Separator) (text : Bytes) : List Bytes :=
  if text.isEmpty then []
  else
    match s with
    | .blanks => (text.splitOnP isFieldBlank).filter (!·.isEmpty)
    | .chars => text.map fun c => [c]
    | .char c => text.splitOn c
    | .pattern c => partsBetween text 0 (matchesIn c (subjectOf text) (text.length + 1) 0)

def setRecord (text : Bytes) : Course Unit := do
  let separator ← separatorOf ((← valueOf "FS").toText [])
  let separator ← match separator, (← valueOf "RS").toText [] with
    | .char c, [] => do
      pure (Separator.pattern (← compile ['[', '\\', c, '\n', ']']))
    | s, _ => pure s
  modify fun s =>
    { s with
      record := text
      fields := ((separator.split text).map Value.input).toArray
      stale := false }

def recordText : Course Bytes := do
  let s ← get
  if !s.stale then return s.record
  let between ← textOf (← valueOf "OFS")
  let parts ← s.fields.toList.mapM textOf
  let text := between.intercalate parts
  modify fun s => { s with record := text, stale := false }
  return text

def fieldValue (n : Int) : Course Value := do
  if n < 0 then throw (.failed ("negative field index $" ++ toString n))
  if n = 0 then return .input (← recordText)
  return (← get).fields.getD (n.toNat - 1) (.text [])

def resize (n : Nat) : Course Unit :=
  modify fun s =>
    { s with
      fields := (s.fields.toList.take n ++
        List.replicate (n - s.fields.size) (Value.text [])).toArray
      stale := true }

def setField (n : Int) (v : Value) : Course Unit := do
  if n < 0 then throw (.failed ("negative field index $" ++ toString n))
  if n = 0 then setRecord (← textOf v)
  else
    if 100000 < n then throw (.failed ("value assigned to NF could exceed program limits"))
    if (← get).fields.size < n.toNat then resize n.toNat
    modify fun s =>
      { s with fields := s.fields.setIfInBounds (n.toNat - 1) v, stale := true }

def flush : Course Unit := do
  let s ← get
  if !s.pending.isEmpty then
    set { s with pending := [], pendingSize := 0 }
    run (emit s.pending.reverse.flatten)

def write (text : Bytes) : Course Unit := do
  modify fun s =>
    { s with pending := text :: s.pending, pendingSize := s.pendingSize + text.length }
  if 4096 ≤ (← get).pendingSize then flush

def sinkOf (way : Way) (name : Bytes) : Course (Option Sink) := do
  let s ← get
  match s.sinks.lookup (way, name) with
  | some sink => return some sink
  | none =>
    flush
    let opened : Option Sink ←
      if way == .pipe then pure (some (Sink.command []))
      else
        match ← run (Run.openFile (if way == .append then .append else .overwrite) name) with
        | .ok number =>
          let d := 200 + number
          run (Run.update fun p => { p with descriptors := Run.bound d number p.descriptors })
          pure (some (Sink.descriptor d))
        | .error e =>
          throw (.failed ("cannot open \"" ++ shown name ++ "\" for output (" ++ e.reason ++ ")"))
    match opened with
    | some sink => modify fun s => { s with sinks := s.sinks ++ [((way, name), sink)] }
    | none => pure ()
    return opened

def writeTo (target : Option (Way × Bytes)) (text : Bytes) : Course Unit := do
  match target with
  | none => write text
  | some (way, name) =>
    if way != .pipe && (name == "/dev/stdout".toList || name == ['-']) then write text
    else
      match ← sinkOf way name with
      | some (.descriptor d) => run (Run.say d text)
      | some (.command parts) =>
        modify fun s =>
          { s with sinks := Run.bound (way, name) (Sink.command (text :: parts)) s.sinks }
      | none => pure ()

def closeSink (e : Engine) (target : Way × Bytes) : Course (Option Nat) := do
  let s ← get
  match s.sinks.lookup target with
  | none => return none
  | some sink =>
    modify fun s => { s with sinks := s.sinks.filter fun k => k.1 != target }
    match sink with
    | .descriptor d =>
      run (Run.update fun p =>
        { p with descriptors := p.descriptors.filter fun k => k.1 != d })
      return some 0
    | .command parts =>
      let (_, status) ← run (command e target.2 (some parts.reverse.flatten) false)
      return some status

def Stream.more (s : Stream) : Run (Stream × Bool) := do
  match s.descriptor with
  | none => return (s, false)
  | some d =>
    match ← Run.receive d 65536 with
    | .ok [] | .error _ => return ({ s with descriptor := none }, false)
    | .ok bytes => return ({ s with buffer := s.buffer ++ bytes }, true)

def Stream.all (s : Stream) : Run Stream :=
  iterate .stalled
    (fun (s : Stream) => do
      let (s, more) ← s.more
      return if more then .inl s else .inr s)
    100000 s

def nextRecord (s : Stream) : Course (Option Bytes × Stream) := do
  let separator ← textOf (← valueOf "RS")
  match separator with
  | [c] =>
    run (iterate .stalled
      (fun (s : Stream) => do
        let line := s.buffer.takeWhile (· != c)
        match s.buffer.drop line.length with
        | _ :: rest => return .inr (some line, { s with buffer := rest })
        | [] =>
          let (after, more) ← s.more
          if more then return .inl after
          else if line.isEmpty then return .inr (none, after)
          else return .inr (some line, { after with buffer := [] }))
      100000 s)
  | [] =>
    let s ← run s.all
    let text := s.buffer.dropWhile (· == '\n')
    if text.isEmpty then return (none, { s with buffer := [] })
    let found := (← compile "\n\n+".toList).search? (subjectOf text) 0
    match found with
    | some f => return (some (text.take f.first), { s with buffer := text.drop f.last })
    | none =>
      let text := if text.getLast? == some '\n' then text.dropLast else text
      return (some text, { s with buffer := [] })
  | pattern =>
    let s ← run s.all
    let text := s.buffer
    if text.isEmpty then return (none, s)
    let c ← compile pattern
    match (matchesIn c (subjectOf text) 1 0).head? with
    | some (first, last) => return (some (text.take first), { s with buffer := text.drop last })
    | none => return (some text, { s with buffer := [] })

def assignText (text : Bytes) : Course Unit := do
  let name := text.takeWhile (· != '=')
  let raw := text.drop (name.length + 1)
  let value := Value.input (unescaped raw.length raw)
  if name == "NF".toList then resize (integerOf value.toNumber).toNat
  else modify fun s => { s with globals := Run.bound name (.scalar value) s.globals }

def openNext : Course Bool :=
  repeated do
    let s ← get
    let count := (integerOf (← valueOf "ARGC").toNumber).toNat
    if count ≤ s.nextArgument then
      if s.hasRead then return some false
      set { s with input := some { descriptor := some 0 }, hasRead := true }
      return some true
    set { s with nextArgument := s.nextArgument + 1 }
    let t ← table (← tableOf "ARGV".toList)
    let argument ← textOf ((t.values.lookup (Run.number s.nextArgument)).getD .missing)
    let isAssignment := argument.contains '=' && isName (argument.takeWhile (· != '='))
    if argument.isEmpty then return none
    else if isAssignment then
      assignText argument
      return none
    else
      match ← run (openInput argument) with
      | .error e =>
        throw (.failed ("cannot open \"" ++ shown argument ++ "\" (" ++ e.reason ++ ")"))
      | .ok d =>
        setValue "FILENAME" (.text argument)
        setValue "FNR" (.number .zero)
        modify fun s => { s with input := some { descriptor := some d }, hasRead := true }
        return some true

def countUp (name : String) : Course Unit := do
  setValue name (.number ((← valueOf name).toNumber + Binary64.ofInt 1))

def nextInput : Course (Option Bytes) :=
  repeated do
    match (← get).input with
    | none => if ← openNext then return none else return some none
    | some stream =>
      let (found, after) ← nextRecord stream
      match found with
      | some text =>
        modify fun s => { s with input := some after }
        countUp "NR"
        countUp "FNR"
        return some (some text)
      | none =>
        modify fun s => { s with input := none }
        if ← openNext then return none else return some none

end Gesture.Shell.Program.Awk
