import Gesture.Shell.Program.Entry
import Gesture.Shell.Program.Nested
import Gesture.Shell.Program.Sed.Script
import Gesture.Shell.Program.Size

namespace Gesture.Shell.Program

namespace Sed

inductive Progress where
  | inactive
  | active (last : Option Nat)
  | closed
  deriving DecidableEq, Repr

inductive Queued where
  | text (t : Bytes)
  | file (name : Bytes)

structure Space where
  text : Bytes := []
  ended : Bool := true

def Space.joined (ending : Char) (s line : Space) : Space :=
  ⟨s.text ++ ending :: line.text, line.ended⟩

structure State where
  files : List Bytes
  current : Option Nat := none
  name : Bytes := ['-']
  lineName : Bytes := ['-']
  endsFile : Bool := false
  buffer : Bytes := []
  parts : List Bytes := []
  line : Nat := 0
  space : Space := {}
  kept : Space := {}
  queue : List Queued := []
  replaced : Bool := false
  progress : Array Progress
  latest : Option Pattern := none
  place : Option Nat := none
  status : Nat := 0
  written : List Bytes := []
  missingEnd : List Bytes := []
  sources : List (Bytes × Bytes) := []

def Script.starts (s : Script) : Array Progress :=
  s.commands.map fun c => match c.first with
    | some (.line 0) => .active none
    | _ => .inactive

structure Setup where
  engine : Engine
  script : Script
  quiet : Bool
  separate : Bool
  inPlace : Option Bytes
  ending : Char
  width : Nat

abbrev Edit := StateT State Run

def usualOutput : Bytes := "/dev/stdout".toList

def errorOutput : Bytes := "/dev/stderr".toList

def put (u : Setup) (target text : Bytes) : Edit Unit := do
  if target.isEmpty && u.inPlace.isSome then
    modify fun s => { s with written := text :: s.written }
  else if target.isEmpty || target == usualOutput then StateT.lift (emit text)
  else if target == errorOutput then StateT.lift (Run.say 2 text)
  else
    let text : Run Unit := do
      match ← Run.openFile .append target with
      | .ok number =>
        Run.update fun p => { p with descriptors := Run.bound 99 number p.descriptors }
        Run.say 99 text
      | .error _ => pure ()
    StateT.lift text

def output (u : Setup) (target text : Bytes) : Edit Unit := do
  if (← get).missingEnd.contains target then
    put u target [u.ending]
    modify fun s => { s with missingEnd := s.missingEnd.filter (· != target) }
  put u target text

def outputSpace (u : Setup) (target : Bytes) (line : Space) : Edit Unit := do
  output u target (if line.ended then line.text ++ [u.ending] else line.text)
  if !line.ended then modify fun s => { s with missingEnd := target :: s.missingEnd }

def outputText (u : Setup) (text : Bytes) : Edit Unit :=
  if text.isEmpty then pure () else output u [] (text.dropLast ++ [u.ending])

def finishFile (u : Setup) : Edit Unit := do
  let s ← get
  match u.inPlace, s.current with
  | some backup, some _ =>
    let content := s.written.reverse.flatten
    modify fun s => { s with written := [], missingEnd := [] }
    let change : Run Unit := do
      match ← nodeAt true s.name with
      | .ok (place, .file _) =>
        let m ← get
        match m.tree.item? place, m.tree.number? place, place with
        | some item, some number, name :: parent =>
          if !backup.isEmpty then changeTree (·.name ((name ++ backup) :: parent) number)
          changeTree (·.put place ⟨.file content, item.mode, m.process.now⟩)
        | _, _, _ => pure ()
      | _ => pure ()
    StateT.lift change
  | _, _ => pure ()

/-- Makes sure that there is something in the buffer, and says whether there is. Unless `across`, only
    the file at hand counts. -/
def fill (u : Setup) (across : Bool) : Edit Bool :=
  untilDone do
    let s ← get
    if !s.buffer.isEmpty then return some true
    match s.current with
    | some d =>
      match ← StateT.lift (Run.receive d 65536) with
      | .ok (c :: bytes) =>
        modify fun s => { s with buffer := c :: bytes }
        return some true
      | .ok [] =>
        if !across then return some false
        finishFile u
        modify fun s => { s with current := none }
        return none
      | .error e =>
        StateT.lift (complain ("couldn't read " ++ shown s.name ++ ": " ++ e.reason))
        modify fun s => { s with current := none, status := 2 }
        return none
    | none =>
      match s.files with
      | [] => return some false
      | path :: files =>
        modify fun s => { s with files }
        match ← StateT.lift (openInput path) with
        | .error e =>
          StateT.lift (complain ("can't read " ++ shown path ++ ": " ++ e.reason))
          modify fun s => { s with status := 2 }
        | .ok d =>
          modify fun s => { s with current := some d, name := path }
          if u.separate then modify fun s => { s with line := 0, progress := u.script.starts }
        return none

def atLast (u : Setup) : Edit Bool := do
  let more ← fill u !u.separate
  if (← get).endsFile then modify fun s => { s with lineName := s.name }
  return !more

def nextLine (u : Setup) : Edit (Option Space) := do
  if !(← fill u true) then return none
  modify fun s => { s with line := s.line + 1, lineName := s.name, endsFile := false }
  untilDone do
    let s ← get
    let part := s.buffer.takeWhile (· != u.ending)
    match s.buffer.drop part.length with
    | _ :: rest =>
      set { s with buffer := rest, parts := [] }
      return some (some ⟨(part :: s.parts).reverse.flatten, true⟩)
    | [] =>
      set { s with buffer := [], parts := part :: s.parts }
      if ← fill u false then return none
      let s ← get
      set { s with parts := [], endsFile := true }
      return some (some ⟨s.parts.reverse.flatten, false⟩)

def resolved (p : Pattern) : Edit Pattern := do
  let s ← get
  match if p.compiled.isSome then some p else s.latest with
  | none =>
    StateT.lift (complain "-e expression #1, char 0: no previous regular expression")
    StateT.lift do
      Run.setStatus 1
      throw .finished
  | some p =>
    modify fun s => { s with latest := some p }
    return p

def Pattern.subject (p : Pattern) (text : Bytes) : Array Char :=
  (if p.bytewise then text else Regular.wide text).toArray

def Pattern.find (p : Pattern) (text : Array Char) (place : Nat) : Option Regular.Found := do
  let compiled ← p.compiled
  let subject : Regular.Subject :=
    { text, ignoresCase := p.ignoresCase, multiline := p.multiline, isWide := !p.bytewise }
  compiled.search? subject place

def Address.meets (u : Setup) (a : Address) : Edit Bool := do
  let s ← get
  match a with
  | .line n => return s.line == n
  | .every first step => return decide (first ≤ s.line) && (s.line - first) % step == 0
  | .last => atLast u
  | .matching p =>
    let p ← resolved p
    return (p.find (p.subject s.space.text) 0).isSome

def isSelected (u : Setup) (index : Nat) (c : Command) : Edit Bool := do
  let s ← get
  let setProgress (p : Progress) : Edit Unit :=
    modify fun s => { s with progress := s.progress.setIfInBounds index p }
  let start (e : Ending) : Edit Unit := do
    let line := s.line
    setProgress .closed
    match e with
    | .after n => if n ≠ 0 then setProgress (.active (some (line + n)))
    | .multiple n => if n ≠ 0 then setProgress (.active (some ((line / n + 1) * n)))
    | .address (.line n) => if line < n then setProgress (.active (some n))
    | .address _ => setProgress (.active none)
  match c.first, c.ending with
  | none, _ => return true
  | some a, none => a.meets u
  | some a, some e =>
    match s.progress.getD index .inactive with
    | .active (some last) =>
      if last ≤ s.line then setProgress .closed
      /- Only a range up to the line of a number can be left behind. -/
      match e with
      | .address _ => return decide (s.line ≤ last)
      | _ => return true
    | .active none =>
      match e with
      | .address b =>
        if ← b.meets u then setProgress .closed
      | _ => pure ()
      return true
    | state =>
      let passed : Bool := match e with
        | .address (.line n) => decide (n < s.line)
        | _ => false
      match a with
      | .line n =>
        /- A range may start late, but only once. -/
        if state == .inactive && (s.line == n || n < s.line && !passed) then
          start e
          return true
        return false
      | _ =>
        if ← a.meets u then
          start e
          return true
        return false

def addCased (s : List Char × Casing × Option Casing) (text : List Char) :
    List Char × Casing × Option Casing :=
  let (before, lasting, once) := s
  let cased := match lasting with
    | .upper => text.map Wide.upper
    | .lower => text.map Wide.lower
    | _ => text
  match once, cased with
  | some .upperNext, c :: rest => (rest.reverse ++ Wide.upper c :: before, lasting, none)
  | some .lowerNext, c :: rest => (rest.reverse ++ Wide.lower c :: before, lasting, none)
  | _, _ => (cased.reverse ++ before, lasting, once)

def replacementOf (pieces : List Piece) (text : Array Char) (f : Regular.Found) : List Char :=
  let part (first last : Nat) : List Char := (text.extract first last).toList
  let step (s : List Char × Casing × Option Casing) (p : Piece) :
      List Char × Casing × Option Casing :=
    match p with
    | .text t => if t.isEmpty then s else addCased s t
    | .group 0 => if f.first = f.last then s else addCased s (part f.first f.last)
    | .group n =>
      match f.groups.lookup n with
      | some (first, last) => if first = last then s else addCased s (part first last)
      | none => s
    | .casing c =>
      match c with
      | .upperNext | .lowerNext => (s.1, s.2.1, some c)
      | c => (s.1, c, none)
  (pieces.foldl step ([], .plain, none)).1.reverse

/-- Replaces matches in a text from a place on. `done` is what was made so far, latest first; an empty
    match right after another one does not count. -/
def replaceFrom (b : Substitution) (p : Pattern) (text : Array Char) :
    Nat → Nat → Option Nat → Nat → List Char → List Char × Bool
  | 0, _, _, _, done => (done.reverse, false)
  | limit + 1, place, last, count, done =>
    let restFrom (place : Nat) : List Char := (text.extract place text.size).toList
    if text.size < place then (done.reverse, false)
    else
      match p.find text place with
      | none => (done.reverse ++ restFrom place, false)
      | some f =>
        let between := (text.extract place f.first).toList.reverse
        let skipOne (done : List Char) (place : Nat) : List Char := text[place]?.toList ++ done
        if f.first = f.last && last == some f.first then
          if f.last < text.size then
            replaceFrom b p text limit (f.last + 1) none count (skipOne (between ++ done) f.last)
          else (done.reverse ++ between.reverse, false)
        else
          let count := count + 1
          let replaces := b.nth ≤ count
          let made := replacementOf b.replacement text f
          let part := if !replaces then (text.extract f.first f.last).toList
            else if p.bytewise then Regular.narrow made else made
          let done := part.reverse ++ between ++ done
          let isEmpty := f.first = f.last
          if replaces && !b.all then (done.reverse ++ restFrom f.last, true)
          else if isEmpty && text.size ≤ f.last then (done.reverse, replaces)
          else
            let (done, next) : List Char × Nat :=
              if isEmpty then (skipOne done f.last, f.last + 1) else (done, f.last)
            let (made, more) :=
              replaceFrom b p text limit next (if isEmpty then none else some f.last) count done
            (made, more || replaces)

def replaced? (b : Substitution) (p : Pattern) (line : Bytes) : Option Bytes :=
  let text := p.subject line
  let (made, found) := replaceFrom b p text (text.size + 2) 0 none 0 []
  if found then some (if p.bytewise then made else Regular.narrow made) else none

def listed (c : Char) : Bytes :=
  match c with
  | '\\' => "\\\\".toList
  | '\x07' => "\\a".toList
  | '\x08' => "\\b".toList
  | '\x0c' => "\\f".toList
  | '\n' => "\\n".toList
  | '\r' => "\\r".toList
  | '\t' => "\\t".toList
  | '\x0b' => "\\v".toList
  | c =>
    if ' ' ≤ c && c ≤ '~' then [c]
    else
      let n := c.toNat
      '\\' :: [n / 64, n / 8 % 8, n % 8].map fun d => Char.ofNat (0x30 + d)

def listing (ending : Char) (width : Nat) (text : Bytes) : Bytes :=
  let step (s : Bytes × Nat) (c : Char) : Bytes × Nat :=
    let (before, column) := s
    let sign := listed c
    if 0 < width && width ≤ column + sign.length then
      (sign.reverse ++ ending :: '\\' :: before, sign.length)
    else (sign.reverse ++ before, column + sign.length)
  (ending :: '$' :: (text.foldl step ([], 0)).1).reverse

inductive Flow where
  | goOn (place : Nat)
  | endCycle
  | drop
  | again
  | leave (status : Nat) (silent completes : Bool)

def flushQueue (u : Setup) : Edit Unit := do
  let queue := (← get).queue.reverse
  modify fun s => { s with queue := [] }
  queue.forM fun q => do
    match q with
    | .text t => output u [] t
    | .file name =>
      match ← StateT.lift (contentsOf name) with
      | .ok text => if !text.isEmpty then output u [] text
      | .error _ => pure ()

def firstLine (u : Setup) (s : Space) : Space :=
  ⟨s.text.takeWhile (· != u.ending), s.text.contains u.ending || s.ended⟩

def advance (u : Setup) (join : Bool) (next : Flow) : Edit Flow := do
  if !(← fill u true) then return .leave (← get).status false false
  let s ← get
  if !join && !u.quiet then outputSpace u [] s.space
  flushQueue u
  match ← nextLine u with
  | none => return .leave (← get).status false false
  | some line =>
    modify fun s =>
      { s with space := if join then s.space.joined u.ending line else line }
    return next

def takeSource (u : Setup) (name : Bytes) : Edit (Option Bytes) := do
  let s ← get
  let text ← match s.sources.lookup name with
    | some text => pure text
    | none =>
      match ← StateT.lift (contentsOf name) with
      | .ok text => pure text
      | .error _ => pure []
  let line := text.takeWhile (· != u.ending)
  let size := line.length + 1
  modify fun s =>
    { s with sources := (name, text.drop size) :: s.sources.filter (·.1 != name) }
  return if text.isEmpty then none else some (text.take size)

def written (u : Setup) (text : Bytes) : Edit Bytes := do
  return (← StateT.lift (command u.engine text none true)).1

def evaluate (u : Setup) : Edit Unit := do
  let text ← written u (← get).space.text
  let text := if text.getLast? == some u.ending then text.dropLast else text
  modify fun s => { s with space := { s.space with text } }

def perform (u : Setup) (index : Nat) (c : Command) : Edit Flow := do
  let next := Flow.goOn (index + 1)
  let s ← get
  let setText (f : Bytes → Bytes) : Edit Unit :=
    modify fun s => { s with space := { s.space with text := f s.space.text } }
  match c.action with
  | .block _ | .nothing => return next
  | .number => output u [] (Run.number s.line ++ [u.ending]); return next
  | .append text => modify fun s => { s with queue := .text text :: s.queue }; return next
  | .insert text => outputText u text; return next
  | .change text =>
    let goesOn := match s.progress.getD index .inactive with
      | .active _ => !c.negated
      | _ => false
    if !goesOn then outputText u text
    return .drop
  | .jump condition label =>
    let target := if label.isEmpty then Flow.endCycle
      else ((u.script.labels.lookup label).map Flow.goOn).getD .endCycle
    match condition with
    | none => return target
    | some wanted =>
      modify fun s => { s with replaced := false }
      return if s.replaced == wanted then target else next
  | .delete => return .drop
  | .deleteFirst =>
    if s.space.text.contains u.ending then
      setText fun t => (t.dropWhile (· != u.ending)).drop 1
      return .again
    return .drop
  | .print => outputSpace u [] s.space; return next
  | .printFirst => outputSpace u [] (firstLine u s.space); return next
  | .hold => modify fun s => { s with kept := s.space }; return next
  | .holdMore =>
    modify fun s => { s with kept := { s.kept with text := s.kept.text ++ u.ending :: s.space.text } }
    return next
  | .get => modify fun s => { s with space := s.kept }; return next
  | .getMore =>
    modify fun s => { s with space := ⟨s.space.text ++ u.ending :: s.kept.text, true⟩ }
    return next
  | .exchange => modify fun s => { s with space := s.kept, kept := s.space }; return next
  | .next => advance u false next
  | .nextMore => advance u true next
  | .quit status silent => return .leave status silent true
  | .readFile name => modify fun s => { s with queue := .file name :: s.queue }; return next
  | .readLine name =>
    match ← takeSource u name with
    | some line => modify fun s => { s with queue := .text line :: s.queue }
    | none => pure ()
    return next
  | .write name => outputSpace u name s.space; return next
  | .writeFirst name => outputSpace u name (firstLine u s.space); return next
  | .substitute b =>
    let p ← resolved b.pattern
    match replaced? b p s.space.text with
    | none => pure ()
    | some text =>
      modify fun s => { s with space := { s.space with text }, replaced := true }
      if b.evaluated then
        if b.printsFirst then outputSpace u [] (← get).space
        evaluate u
      let s ← get
      if b.prints then outputSpace u [] s.space
      match b.file with
      | some name => outputSpace u name s.space
      | none => pure ()
    return next
  | .translate pairs =>
    setText fun t =>
      Regular.narrow ((Regular.wide t).map fun c => (pairs.lookup c).getD c)
    return next
  | .list width => 
    output u [] (listing u.ending (width.getD u.width) s.space.text)
    return next
  | .clear => setText fun _ => []; return next
  | .evaluate [] =>
    evaluate u
    return next
  | .evaluate text =>
    output u [] (← written u text.dropLast)
    return next
  | .fileName => output u [] (s.lineName ++ [u.ending]); return next

def turn (u : Setup) : Edit Flow := do
  let s ← get
  match s.place with
  | none =>
    match ← nextLine u with
    | none => return .leave s.status true false
    | some line =>
      modify fun s => { s with space := line, replaced := false }
      return .goOn 0
  | some place =>
    match u.script.commands[place]? with
    | none => return .endCycle
    | some c =>
      let selected ← isSelected u place c
      if selected != c.negated then perform u place c
      else
        match c.action with
        | .block ending => return .goOn ending
        | _ => return .goOn (place + 1)

def edit (u : Setup) : Edit Nat :=
  untilDone do
    StateT.lift Run.step
    let endLine (prints : Bool) : Edit Unit := do
      if prints && !u.quiet then outputSpace u [] (← get).space
      flushQueue u
    match ← turn u with
    | .goOn place =>
      modify fun s => { s with place := some place }
      return none
    | .endCycle =>
      endLine true
      modify fun s => { s with place := none }
      return none
    | .drop =>
      endLine false
      modify fun s => { s with place := none }
      return none
    | .again =>
      endLine false
      modify fun s => { s with place := some 0 }
      return none
    | .leave status silent completes =>
      if !silent then endLine true
      if completes && !silent then output u [] []
      let s ← get
      match s.current with
      | some d => StateT.lift (Run.giveBack d s.buffer.length)
      | none => pure ()
      finishFile u
      return some status

def locate : List Bytes → Nat → Nat → Nat × Nat
  | text :: next :: rest, number, place =>
    if place ≤ text.length then (number, place)
    else locate (next :: rest) (number + 1) (place - text.length - 1)
  | _, number, place => (number, place)

def Script.targets (s : Script) : List Bytes :=
  s.commands.toList.filterMap fun c => match c.action with
    | .write name | .writeFirst name => some name
    | .substitute { file := some name, .. } => some name
    | _ => none

def usage : String :=
  "Usage: sed [OPTION]... \x7bscript-only-if-no-other-script\x7d [input-file]...\n"

end Sed

open Sed in
def sed (e : Engine) (arguments : List Bytes) : Run Nat := do
  let long := [("quiet", 'n'), ("silent", 'n'), ("expression", 'e'), ("file", 'f'),
    ("regexp-extended", 'E'), ("in-place", '\x01'), ("separate", 's'), ("null-data", 'z'),
    ("unbuffered", 'u'), ("line-length", 'l'), ("posix", 'p')]
  /- What is attached to the option for changes in place is its argument. -/
  let arguments := arguments.map fun a => match a with
    | '-' :: 'i' :: ending => if ending.isEmpty then "--in-place".toList
        else "--in-place=".toList ++ ending
    | a => a
  let size := total (arguments.map (·.length + 1))
  match readOptions "ne:f:Erszul:i\x01::" long false (size + 1) arguments {} with
  | .error e =>
    complain e.message
    Run.say 2 usage.toList
    return 1
  | .ok o =>
    let given := o.letters.filter fun l => l.1 == 'e' || l.1 == 'f'
    let scripts ← given.mapM fun (letter, value) => do
      if letter == 'e' then return some value
      match ← contentsOf value with
      | .ok text => return some (if text.getLast? == some '\n' then text.dropLast else text)
      | .error e =>
        complain ("couldn't open file " ++ shown value ++ ": " ++ e.reason)
        return none
    if scripts.any (·.isNone) then return 1
    let (texts, files) := if given.isEmpty then (o.rest.take 1, o.rest.drop 1)
      else (scripts.filterMap (fun t => t), o.rest)
    if texts.isEmpty then
      Run.say 2 usage.toList
      return 1
    match scriptOf (o.has 'E' || o.has 'r') (['\n'].intercalate texts) with
    | .error ⟨message, none⟩ => refuse 4 message
    | .error ⟨message, some place⟩ =>
      let (number, place) := locate texts 1 place
      refuse 1 ("-e expression #" ++ toString number ++ ", char " ++ toString place ++ ": " ++ message)
    | .ok script =>
      let inPlace := o.last? '\x01'
      let u : Setup :=
        { engine := e
          script
          quiet := o.has 'n' || script.quiet
          separate := o.has 's' || inPlace.isSome
          inPlace
          ending := if o.has 'z' then '\x00' else '\n'
          width := (((o.last? 'l').map (Size.ofText "")).bind Except.toOption).getD 70 }
      for name in script.targets do
        if name != usualOutput && name != errorOutput then
          if let .error e ← Run.openFile .overwrite name then
            return ← refuse 4 ("couldn't open file " ++ shown name ++ ": " ++ e.reason)
      let (status, s) ← (edit u).run
        { files := if files.isEmpty then [['-']] else files, progress := script.starts }
      return if s.status = 0 then status else s.status

end Gesture.Shell.Program
