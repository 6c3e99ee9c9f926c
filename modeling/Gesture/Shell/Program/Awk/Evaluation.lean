import Gesture.Shell.Program.Awk.State

namespace Gesture.Shell.Program.Awk

inductive Flow where
  | on
  | break
  | continue
  deriving DecidableEq, Repr

structure Inner where
  expr : Expr → Course Value
  statement : Statement → Course Flow
  functions : List (Bytes × Definition)
  engine : Engine

variable (inner : Inner)

def keyOf (values : List Value) : Course Key := do
  match values with
  | [.number x] =>
    match shortWhole? x with
    | some n => return .number n
    | none => return .text (← textOf (.number x))
  | [v] => return .text (← textOf v)
  | many =>
    let between ← textOf (← valueOf "SUBSEP")
    return .text (between.intercalate (← many.mapM textOf))

def subscriptKey (subscripts : List Expr) : Course Key := do
  keyOf (← subscripts.mapM inner.expr)

def nameValue (name : Bytes) : Course Value := do
  if name == "NF".toList then return .number (Binary64.ofInt (← get).fields.size)
  match ← slot? name with
  | some (.scalar v) => return v
  | some (.array _) => throw (.failed ("type error in arg(1) in " ++ String.ofList name))
  | _ => return .missing

def setName (name : Bytes) (v : Value) : Course Unit := do
  if name == "NF".toList then resize (integerOf v.toNumber).toNat
  else setSlot name (.scalar v)

inductive Place where
  | name (n : Bytes)
  | field (n : Int)
  | element (table : Nat) (key : Key)

def placeOf? (e : Expr) : Course (Option Place) := do
  match e with
  | .name n => return some (.name n)
  | .field e => return some (.field (integerOf (← inner.expr e).toNumber))
  | .element array subscripts =>
    let key ← subscriptKey inner subscripts
    return some (.element (← tableOf array) key)
  | _ => return none

def Place.value (p : Place) : Course Value := do
  match p with
  | .name n => nameValue n
  | .field n => fieldValue n
  | .element id key =>
    let (v, t) := (← table id).get key
    setTable id t
    return v

def Place.put (p : Place) (v : Value) : Course Unit := do
  match p with
  | .name n => setName n v
  | .field n => setField n v
  | .element id key => setTable id ((← table id).put key v)

def patternOf (e : Expr) : Course Regular.Compiled := do
  match e with
  | .pattern c => return c
  | e => compile (← textOf (← inner.expr e))

/-- What takes the place of a match: an ampersand stands for the match, unless a backslash is before
    it. -/
def replacement (found : Bytes) : Bytes → Bytes
  | '\\' :: '&' :: rest => '&' :: replacement found rest
  | '\\' :: '\\' :: '&' :: rest => '\\' :: (found ++ replacement found rest)
  | '&' :: rest => found ++ replacement found rest
  | c :: rest => c :: replacement found rest
  | [] => []

/-- A text with matches replaced from a place on, and how many were. An empty match right after
    another one does not count. -/
def replaceFrom (c : Regular.Compiled) (text : Bytes) (subject : Regular.Subject) (new : Bytes)
    (all : Bool) : Nat → Nat → Option Nat → Bytes × Nat
  | 0, place, _ => (text.drop place, 0)
  | limit + 1, place, last =>
    match (if text.length < place then none else c.search? subject place) with
    | none => (text.drop place, 0)
    | some f =>
      let before := (text.take f.first).drop place
      let one := (text.drop f.last).take 1
      if f.first = f.last && last == some f.first then
        if one.isEmpty then (before, 0)
        else
          let (made, n) := replaceFrom c text subject new all limit (f.last + 1) none
          (before ++ one ++ made, n)
      else
        let put := replacement ((text.take f.last).drop f.first) new
        if !all then (before ++ put ++ text.drop f.last, 1)
        else if f.first = f.last then
          let (made, n) := replaceFrom c text subject new all limit (f.last + 1) none
          (before ++ put ++ one ++ (if one.isEmpty then [] else made), n + 1)
        else
          let (made, n) := replaceFrom c text subject new all limit f.last (some f.last)
          (before ++ put ++ made, n + 1)

def substitute (all : Bool) (pattern new : Expr) (target : Expr) : Course Value := do
  let c ← patternOf inner pattern
  let new ← textOf (← inner.expr new)
  match ← placeOf? inner target with
  | none => return truth false
  | some place =>
    let text ← textOf (← place.value)
    let (made, n) := replaceFrom c text (subjectOf text) new all (text.length + 2) 0 none
    if n ≠ 0 then place.put (.text made)
    return .number (Binary64.ofInt n)

def measure (text : Bytes) (arguments : List Value) : Option Int × Bytes × List Value :=
  match text with
  | '*' :: rest => (some (integerOf ((arguments.headD .missing).toNumber)), rest, arguments.drop 1)
  | _ =>
    let digits := text.takeWhile Char.isDigit
    (if digits.isEmpty then none else some (Text.decimalValue digits : Nat),
      text.drop digits.length, arguments)

def converted? (c : Format.Conversion) (shownValue : Bytes) (v : Value) : Option Bytes :=
  let x := v.toNumber
  match c.letter with
  | 'd' | 'i' =>
    let n := integerOf x
    let mark := if n < 0 then ['-'] else if c.sign then ['+'] else if c.space then [' '] else []
    some (c.padNumber mark (Format.digitsIn 10 n.natAbs))
  | 'u' | 'o' | 'x' | 'X' => some (c.word (naturalOf x))
  | 'e' | 'E' | 'f' | 'F' | 'g' | 'G' => some (c.float x)
  | 'c' =>
    let isNumber := match v with
      | .number _ => true
      | .input t => (wholeNumber? t).isSome
      | _ => false
    let sign := if isNumber then Char.ofNat (integerOf x % 256).toNat else shownValue.headD '\x00'
    some (c.pad [sign])
  | 's' =>
    let cut := match c.precision with
      | some p => shownValue.take p
      | none => shownValue
    some (c.pad cut)
  | _ => none

def formatted (numbers whole : Bytes) :
    Nat → Bytes → List Value → Bytes → Except String Bytes
  | 0, before, _, _ => .ok before.reverse
  | _ + 1, before, _, [] => .ok before.reverse
  | limit + 1, before, values, '%' :: '%' :: rest =>
    formatted numbers whole limit ('%' :: before) values rest
  | limit + 1, before, values, '%' :: rest =>
    let (c, rest) := Format.flags ⟨false, false, false, false, false, 0, none, ' '⟩ rest
    let (width, rest, values) := measure rest values
    let width := width.getD 0
    let c := { c with width := min width.natAbs 100000, left := c.left || decide (width < 0) }
    let (precision, rest, values) := match rest with
      | '.' :: rest =>
        let (precision, rest, values) := measure rest values
        (some (min (precision.getD 0).toNat 100000), rest, values)
      | rest => (none, rest, values)
    match rest.dropWhile fun c => c == 'h' || c == 'l' with
    | [] => .error "improper conversion"
    | letter :: rest =>
      match values with
      | [] => .error ("not enough arguments passed to printf(\"" ++ String.ofList whole ++ "\")")
      | v :: values =>
        let c : Format.Conversion := { c with precision := precision, letter := letter }
        match converted? c (v.toText numbers) v with
        | some text => formatted numbers whole limit (text.reverse ++ before) values rest
        | none =>
          .error ("improper conversion(number 1) in printf(\"" ++ String.ofList whole ++ "\")")
  | limit + 1, before, values, c :: rest => formatted numbers whole limit (c :: before) values rest

def format (arguments : List Value) : Course Bytes := do
  let whole ← textOf (arguments.headD .missing)
  match formatted (← textFormat) whole (whole.length + 1) [] arguments.tail whole with
  | .ok text => return text
  | .error message =>
    let shownOf (name : String) : Course String := do
      return String.ofList (← textOf (← valueOf name))
    throw (.failed ("run time error: " ++ message ++ "\n\tFILENAME=\"" ++ (← shownOf "FILENAME") ++
      "\" FNR=" ++ (← shownOf "FNR") ++ " NR=" ++ (← shownOf "NR")))

/-- A part of a text from a place on, counted from one. A place below that moves up to it, and a
    negative one makes the part longer by as much. -/
def partOf (text : Bytes) (start : Binary64) (length? : Option Binary64) : Bytes :=
  let first := integerOf start
  let rest := text.drop (max first 1 - 1).toNat
  match length? with
  | some n => rest.take (integerOf n - min first 0).toNat
  | none => rest

def isArray (name : Bytes) : Course Bool := do
  match ← slot? name with
  | some (.array _) => return true
  | _ => return false

def closeAll (name : Bytes) : Course Value := do
  let s ← get
  let isStream := s.streams.any fun k => k.1.2 == name
  modify fun s => { s with streams := s.streams.filter fun k => k.1.2 != name }
  let results ← [Way.write, .append, .pipe].mapM fun way => closeSink inner.engine (way, name)
  match results.filterMap id with
  | status :: _ => return .number (Binary64.ofInt status)
  | [] => return .number (Binary64.ofInt (if isStream then 0 else -1))

def apply (f : Function) (arguments : List Expr) : Course Value := do
  let number (x : Binary64) : Course Value := return .number x
  let textAt (i : Nat) : Course Bytes := do
    match arguments[i]? with
    | some e => textOf (← inner.expr e)
    | none => return []
  let numberAt (i : Nat) : Course Binary64 := do
    match arguments[i]? with
    | some e => return (← inner.expr e).toNumber
    | none => return .zero
  let natural (n : Nat) : Course Value := number (Binary64.ofInt n)
  match f with
  | .length =>
    match arguments with
    | [] => natural (← recordText).length
    | [.name n] =>
      if ← isArray n then natural (← table (← tableOf n)).values.length
      else natural (← textAt 0).length
    | _ => natural (← textAt 0).length
  | .substr =>
    let text ← textAt 0
    let start ← numberAt 1
    let length? ← if 2 < arguments.length then pure (some (← numberAt 2)) else pure none
    return .text (partOf text start length?)
  | .index =>
    let text ← textAt 0
    let wanted ← textAt 1
    let found := (List.range (text.length + 1)).find? fun i => wanted.isPrefixOf (text.drop i)
    natural (match found with
      | some i => i + 1
      | none => 0)
  | .split =>
    let text ← textAt 0
    match arguments.drop 1 with
    | .name n :: rest =>
      let separator ← match rest with
        | .pattern c :: _ => pure (Separator.pattern c)
        | e :: _ => separatorOf (← textOf (← inner.expr e))
        | [] => separatorOf (← textOf (← valueOf "FS"))
      let parts := separator.split text
      setTable (← tableOf n) (Table.ofParts (parts.map Value.input))
      natural parts.length
    | _ => throw (.failed "syntax error at or near split")
  | .sub | .gsub =>
    match arguments with
    | pattern :: new :: rest =>
      substitute inner (f == .gsub) pattern new (rest.headD (.field (.number .zero)))
    | _ => number .zero
  | .match =>
    let text ← textAt 0
    let found ← match arguments[1]? with
      | some e => do pure ((← patternOf inner e).search? (subjectOf text) 0)
      | none => pure none
    let (start, length) : Int × Int := match found with
      | some f => (f.first + 1, f.last - f.first)
      | none => (0, -1)
    setValue "RSTART" (.number (Binary64.ofInt start))
    setValue "RLENGTH" (.number (Binary64.ofInt length))
    number (Binary64.ofInt start)
  | .tolower => return .text ((← textAt 0).map Char.toLower)
  | .toupper => return .text ((← textAt 0).map Char.toUpper)
  | .sprintf => return .text (← format (← arguments.mapM inner.expr))
  | .int => number (whole (← numberAt 0))
  | .sqrt => number (root (← numberAt 0))
  | .exp => number (exponential (← numberAt 0))
  | .log => number (logarithm (← numberAt 0))
  | .sin => number (Real.toBinary (Real.sin (Real.ofBinary (← numberAt 0))))
  | .cos => number (Real.toBinary (Real.cos (Real.ofBinary (← numberAt 0))))
  | .atan2 =>
    let y ← numberAt 0
    let x ← numberAt 1
    number (Real.toBinary (Real.angle (Real.ofBinary y) (Real.ofBinary x)))
  | .rand =>
    let s ← get
    let seed := (s.seed * 1103515245 + 12345) % 2147483648
    set { s with seed }
    number (Binary64.ofRatio false seed 2147483648)
  | .srand =>
    let s ← get
    let seed ← if arguments.isEmpty then pure 0 else do pure (integerOf (← numberAt 0)).toNat
    set { s with seed }
    natural s.seed
  | .system =>
    let text ← textAt 0
    flush
    let (_, status) ← run (command inner.engine text none false)
    natural status
  | .close => closeAll inner (← textAt 0)
  | .fflush =>
    flush
    number .zero

/-- Calls a function of the script. Names that stand for nothing yet may become arrays inside. -/
def callFunction (name : Bytes) (arguments : List Expr) : Course Value := do
  match inner.functions.lookup name with
  | none => throw (.failed ("function " ++ String.ofList name ++ " never defined"))
  | some d =>
    let slotOf (e : Expr) : Course Slot := do
      match e with
      | .name n =>
        match ← slot? n with
        | some (.scalar v) => return .scalar v
        | some slot => return slot
        | none =>
          if n == "NF".toList then return .scalar (← nameValue n)
          let slot := Slot.unknown (← newTable)
          setSlot n slot
          return slot
      | e => return .scalar (← inner.expr e)
    let given ← arguments.mapM slotOf
    let missing ← (d.parameters.drop given.length).mapM fun _ => do return Slot.unknown (← newTable)
    let outer := (← get).locals
    modify fun s => { s with locals := d.parameters.zip (given ++ missing) }
    let result : Value ← tryCatch
      (do
        let _ ← inner.statement d.body
        return .missing)
      (fun j => match j with
        | .return v => return v
        | j => throw j)
    modify fun s => { s with locals := outer }
    return result

def compareValues (r : Relation) (a b : Value) : Course Bool := do
  let order ← match a.comparable?, b.comparable? with
    | some x, some y => pure (order? x y)
    | _, _ => pure (some (compare (← textOf a) (← textOf b)))
  return match order with
    | none => r == .notEqual
    | some o =>
      match r with
      | .less => o == .lt
      | .lessEqual => o != .gt
      | .equal => o == .eq
      | .notEqual => o != .eq
      | .greater => o == .gt
      | .greaterEqual => o != .lt

def readRecord (source : Source) : Course (Except Int Bytes) := do
  let fromStream (key : Bool × Bytes) (stream : Stream) : Course (Except Int Bytes) := do
    let (found, after) ← nextRecord stream
    modify fun s => { s with streams := Run.bound key after s.streams }
    match found with
    | some text => return .ok text
    | none => return .error 0
  match source with
  | .input =>
    match ← nextInput with
    | some text => return .ok text
    | none => return .error 0
  | .file e =>
    let name ← textOf (← inner.expr e)
    match (← get).streams.lookup (false, name) with
    | some stream => fromStream (false, name) stream
    | none =>
      match ← run (openInput (if name == "/dev/stdin".toList then ['-'] else name)) with
      | .error _ => return .error (-1)
      | .ok d => fromStream (false, name) { descriptor := some d }
  | .command e =>
    let text ← textOf (← inner.expr e)
    match (← get).streams.lookup (true, text) with
    | some stream => fromStream (true, text) stream
    | none =>
      flush
      let (output, _) ← run (command inner.engine text none true)
      fromStream (true, text) { descriptor := none, buffer := output }

def getline (target : Option Expr) (source : Source) : Course Value := do
  let place? ← match target with
    | some e => placeOf? inner e
    | none => pure none
  match ← readRecord inner source with
  | .error n => return .number (Binary64.ofInt n)
  | .ok text =>
    match place? with
    | some place => place.put (.input text)
    | none => setRecord text
    match source with
    | .command _ => countUp "NR"
    | _ => pure ()
    return truth true

def expr (e : Expr) : Course Value := do
  match e with
  | .number x => return .number x
  | .text t => return .text t
  | .pattern c => return truth (c.search? (subjectOf (← recordText)) 0).isSome
  | .name n => nameValue n
  | .field i => fieldValue (integerOf (← inner.expr i).toNumber)
  | .element .. =>
    match ← placeOf? inner e with
    | some place => place.value
    | none => return .missing
  | .assign operator target value =>
    match operator with
    | none =>
      let v ← inner.expr value
      match ← placeOf? inner target with
      | some place => place.put v
      | none => pure ()
      return v
    | some o =>
      match ← placeOf? inner target with
      | none => return .missing
      | some place =>
        let right := (← inner.expr value).toNumber
        let v := Value.number (o.apply (← place.value).toNumber right)
        place.put v
        return v
  | .choose condition first second =>
    if (← inner.expr condition).isTrue then inner.expr first else inner.expr second
  | .both a b =>
    if (← inner.expr a).isTrue then return truth (← inner.expr b).isTrue else return truth false
  | .either a b =>
    if (← inner.expr a).isTrue then return truth true else return truth (← inner.expr b).isTrue
  | .member subscripts array =>
    let key ← subscriptKey inner subscripts
    let id ← tableOf array
    return truth ((← table id).has key)
  | .matching negated text pattern =>
    let subject := subjectOf (← textOf (← inner.expr text))
    let c ← patternOf inner pattern
    return truth ((c.search? subject 0).isSome != negated)
  | .compare r a b =>
    let x ← inner.expr a
    let y ← inner.expr b
    return truth (← compareValues r x y)
  | .concat a b =>
    let x ← textOf (← inner.expr a)
    let y ← textOf (← inner.expr b)
    return .text (x ++ y)
  | .arithmetic o a b =>
    let x := (← inner.expr a).toNumber
    let y := (← inner.expr b).toNumber
    return .number (o.apply x y)
  | .negative a => return .number (← inner.expr a).toNumber.neg
  | .positive a => return .number (← inner.expr a).toNumber
  | .not a => return truth !(← inner.expr a).isTrue
  | .count after up target =>
    match ← placeOf? inner target with
    | none => return .missing
    | some place =>
      let old := (← place.value).toNumber
      let new := old + Binary64.ofInt (if up then 1 else -1)
      place.put (.number new)
      return .number (if after then old else new)
  | .call name arguments => callFunction inner name arguments
  | .apply f arguments => apply inner f arguments
  | .getline target source => getline inner target source

def targetOf (target : Option (Way × Expr)) : Course (Option (Way × Bytes)) := do
  match target with
  | none => return none
  | some (way, e) => return some (way, ← textOf (← inner.expr e))

def print (arguments : List Expr) (target : Option (Way × Expr)) : Course Unit := do
  let numbers ← textOf (← valueOf "OFMT")
  let shownOf (v : Value) : Bytes := v.toText numbers
  let text ←
    if arguments.isEmpty then recordText
    else do
      let values ← arguments.mapM inner.expr
      pure ((← textOf (← valueOf "OFS")).intercalate (values.map shownOf))
  let target ← targetOf inner target
  writeTo target (text ++ (← textOf (← valueOf "ORS")))

def turn (body : Statement) : Course Bool := do
  return (← inner.statement body) != .break

def statement (s : Statement) : Course Flow := do
  run Run.step
  let isTrue (e : Expr) : Course Bool := do return (← inner.expr e).isTrue
  match s with
  | .nothing => return .on
  | .expression e =>
    let _ ← inner.expr e
    return .on
  | .print arguments target =>
    print inner arguments target
    return .on
  | .printf arguments target =>
    let text ← format (← arguments.mapM inner.expr)
    writeTo (← targetOf inner target) text
    return .on
  | .block statements =>
    statements.foldlM
      (fun (flow : Flow) s => if flow == .on then inner.statement s else return flow) .on
  | .conditional condition first second =>
    if ← isTrue condition then inner.statement first
    else
      match second with
      | some s => inner.statement s
      | none => return .on
  | .while condition body =>
    repeated do
      if !(← isTrue condition) then return some .on
      if ← turn inner body then return none else return some .on
  | .doWhile body condition =>
    repeated do
      if !(← turn inner body) then return some .on
      if ← isTrue condition then return none else return some .on
  | .loop start condition last body =>
    let _ ← inner.statement start
    repeated do
      let goes ← match condition with
        | some e => isTrue e
        | none => pure true
      if !goes then return some .on
      if !(← turn inner body) then return some .on
      let _ ← inner.statement last
      return none
  | .forEach name array body =>
    let id ← tableOf array
    let (keys, t) := (← table id).keys
    setTable id t
    let _ ← keys.foldlM
      (fun (goes : Bool) key => do
        if !goes then return false
        setName name (.text key)
        turn inner body)
      true
    return .on
  | .next => throw .next
  | .nextFile => throw .nextFile
  | .exit status =>
    match status with
    | some e =>
      let n := integerOf (← inner.expr e).toNumber
      modify fun s => { s with status := (n % 256).toNat }
    | none => pure ()
    throw .exit
  | .return value =>
    match value with
    | some e => throw (.return (← inner.expr e))
    | none => throw (.return .missing)
  | .break => return .break
  | .continue => return .continue
  | .delete array subscripts =>
    let id ← tableOf array
    match subscripts with
    | none => setTable id {}
    | some subscripts =>
      let key ← subscriptKey inner subscripts
      setTable id ((← table id).remove key)
    return .on

def level (e : Engine) (functions : List (Bytes × Definition)) : Nat → Inner
  | 0 =>
    { expr := fun _ => throw (.failed "function call nesting too deep")
      statement := fun _ => throw (.failed "function call nesting too deep")
      functions
      engine := e }
  | limit + 1 =>
    let inner := level e functions limit
    { expr := expr inner, statement := statement inner, functions, engine := e }

def applies (index : Nat) (c : Condition) : Course Bool := do
  match c with
  | .always => return true
  | .when e => return (← inner.expr e).isTrue
  | .range first last =>
    let isOpen := (← get).ranges.contains index
    let starts ← if isOpen then pure true else do pure (← inner.expr first).isTrue
    if !starts then return false
    if (← inner.expr last).isTrue then
      modify fun s => { s with ranges := s.ranges.filter (· != index) }
    else if !isOpen then modify fun s => { s with ranges := index :: s.ranges }
    return true

def applyRules (rules : List Rule) : Course Unit :=
  rules.zipIdx.forM fun (r, index) => do
    if ← applies inner index r.condition then
      match r.action with
      | some body =>
        let _ ← inner.statement body
      | none => print inner [] none

def mainLoop (rules : List Rule) : Course Unit :=
  repeated do
    match ← nextInput with
    | none => return some ()
    | some text =>
      setRecord text
      tryCatch (applyRules inner rules) fun j => match j with
        | .next => return ()
        | .nextFile => modify fun s => { s with input := none }
        | j => throw j
      return none

def perform (s : Script) : Course Unit := do
  tryCatch
    (do
      s.begins.forM fun body => do
        let _ ← inner.statement body
      if !(s.rules.isEmpty && s.ends.isEmpty) then mainLoop inner s.rules)
    (fun j => match j with
      | .exit => return ()
      | j => throw j)
  s.ends.forM fun body => do
    let _ ← inner.statement body

def finish : Course Unit := do
  (← get).sinks.forM fun (target, _) => do
    let _ ← closeSink inner.engine target
  flush

end Gesture.Shell.Program.Awk
