import Gesture.Shell.Mode
import Gesture.Shell.Program.Date
import Gesture.Shell.Program.Entry

namespace Gesture.Shell.Program

def newMode? (o : Options) (isDirectory : Bool) (usual : Nat) : Except Bytes (Option Nat) :=
  match o.last? 'm' with
  | none => .ok none
  | some text =>
    match Mode.change? text with
    | some change => .ok (some (change.apply isDirectory 0 usual))
    | none => .error text

def makeDirectory (o : Options) (isLast : Bool) (mode : Option Nat) (path : Bytes) :
    Run (Option String) := do
  let failed (e : FileError) : Option String :=
    some ("cannot create directory " ++ inRoundQuotes path ++ ": " ++ e.reason)
  let isFine := o.has 'p'
  match ← placeFor path with
  | .error e => return failed e
  | .ok place =>
    match (← get).tree.node? place with
    | none =>
      Run.make place .directory 0o777
      match isLast, mode with
      | true, some mode => changeTree (·.changeAt place fun item => { item with mode })
      | false, _ =>
        changeTree (·.changeAt place fun item => { item with mode := item.mode ||| 0o300 })
      | _, none => pure ()
      if o.has 'v' then emitLine ("mkdir: created directory ".toList ++ (inQuotes path).toList)
      return none
    | some .directory => return if isFine then none else failed .alreadyThere
    | some (.link _) =>
      match ← nodeAt true path with
      | .ok (_, .directory) => return if isFine then none else failed .alreadyThere
      | _ => return failed .alreadyThere
    | some _ => return failed (if isFine && !isLast then .notADirectory else .alreadyThere)

def makeDirectories (o : Options) (mode : Option Nat) (path : Bytes) : Run (Option String) := do
  if !o.has 'p' || path.isEmpty then makeDirectory o true mode path
  else
    let parts := (withoutSlashes path).splitOn '/'
    (List.range parts.length).foldlM
      (fun (failure : Option String) i => do
        let front := ['/'].intercalate (parts.take (i + 1))
        if failure.isSome || front.isEmpty || parts[i]? == some [] then return failure
        makeDirectory o (i + 1 == parts.length) mode front)
      none

def mkdir (arguments : List Bytes) : Run Nat :=
  let long := [("parents", 'p'), ("verbose", 'v'), ("mode", 'm')]
  withOptions "pvm:Z" long false 1 arguments fun o => do
    if o.rest.isEmpty then misuse 1 "missing operand"
    else
      match newMode? o true 0o777 with
      | .error text => refuse 1 ("invalid mode " ++ inRoundQuotes text)
      | .ok mode => forEachArgument o.rest (makeDirectories o mode)

def fromStart (nanoseconds : Int) : Int :=
  nanoseconds / 1000 - Date.startOfScripts * 1000000

def currentMoment : Run Date.Moment := do
  let p ← Run.process
  let zone := ((Run.valueOf p "TZ").bind Date.zoneOf?).getD ("UTC", 0)
  return Date.inZone zone (Date.startOfScripts * 1000000000 + p.now * 1000)

/-- The nanoseconds of a date that is written as digits of a year, if there are any, a month, a
    day, an hour and a minute, with seconds after a point. -/
def stampTime? (now : Date.Moment) (text : Bytes) : Option Int := do
  let digits := text.takeWhile (· != '.')
  let second ← match text.drop digits.length with
    | [] => some 0
    | ['.', a, b] => if a.isDigit && b.isDigit then some (Text.decimalValue [a, b]) else none
    | _ => none
  if !digits.all Char.isDigit then none
  let (front, pairs) := (digits.take (digits.length - 8), digits.drop (digits.length - 8))
  let pair (i : Nat) : Nat := Text.decimalValue ((pairs.drop (2 * i)).take 2)
  let year : Int ← match digits.length with
    | 8 => some (Date.dayOf now.dayNumber).year
    | 10 =>
      let y := Text.decimalValue front
      some (if y < 69 then 2000 + y else 1900 + y)
    | 12 => some (Text.decimalValue front)
    | _ => none
  if pair 0 < 1 || 12 < pair 0 || pair 1 < 1 || Date.monthLength year (pair 0) < pair 1 ||
    23 < pair 2 || 59 < pair 3 || 60 < second then none
  let day := Date.number year (pair 0) (pair 1)
  return (day * 86400 + pair 2 * 3600 + pair 3 * 60 + second - now.ahead) * 1000000000

def givenTime (o : Options) : Run (Except String Int) := do
  let now ← currentMoment
  match o.last? 'r', o.last? 't', o.last? 'd' with
  | some path, _, _ =>
    let m ← get
    match m.tree.lookItem m.process.working path true with
    | .ok item => return .ok item.time
    | .error e => return .error ("failed to get attributes of " ++ inQuotes path ++ ": " ++ e.reason)
  | _, some stamp, _ =>
    match stampTime? now stamp with
    | some n => return .ok (fromStart n)
    | none => return .error ("invalid date format " ++ inRoundQuotes stamp)
  | _, _, some text =>
    match Date.moment? now text with
    | some n => return .ok (fromStart n)
    | none => return .error ("invalid date format " ++ inRoundQuotes text)
  | none, none, none => return .ok ((← Run.process).now : Nat)

def touchAt (o : Options) (time : Int) (path : Bytes) : Run (Option String) := do
  let m ← get
  let wrong (e : FileError) : Option String :=
    some ("cannot touch " ++ inQuotes path ++ ": " ++ e.reason)
  let stamp (place : Place) : Run Unit := do
    if o.has 'm' || !o.has 'a' then
      changeTree (·.changeAt place fun item => { item with time })
  if path == ['-'] then return none
  match m.tree.find m.process.working path (!o.has 'h') with
  | .ok place =>
    if (m.tree.node? place).isSome then
      stamp place
      return none
  | .error _ => pure ()
  if o.has 'c' || o.has 'h' then return none
  if path.getLast? == some '/' then
    return some ("setting times of " ++ inQuotes path ++ ": " ++ FileError.missing.reason)
  match m.tree.target m.process.working path with
  | .error e => return wrong e
  | .ok place =>
    Run.make place (.file []) 0o666
    stamp place
    return none

def touch (arguments : List Bytes) : Run Nat :=
  let long := [("no-create", 'c'), ("date", 'd'), ("reference", 'r'), ("no-dereference", 'h'),
    ("time", 'T')]
  withOptions "acmd:r:t:fhT:" long false 1 arguments fun o => do
    match ← givenTime o with
    | .error message => refuse 1 message
    | .ok time =>
      if o.rest.isEmpty then misuse 1 "missing file operand"
      else forEachArgument o.rest (touchAt o time)

/-- Where something of a name goes: into a directory if there is one, and otherwise to the path. -/
def destination (source path : Bytes) : Run Bytes := do
  match ← nodeAt true path with
  | .ok (_, .directory) =>
    let start := if path.getLast? == some '/' then path else path ++ ['/']
    return start ++ lastPart source
  | _ => return path

def toDestination (o : Options) (follow : Bool) (handle : Bytes → Bytes → Run Nat) : Run Nat := do
  let (sources, last?) : List Bytes × Option Bytes := match o.last? 't' with
    | some directory => (o.rest, some directory)
    | none => (o.rest.dropLast, o.rest.getLast?)
  match sources, last? with
  | [], none => misuse 1 "missing file operand"
  | [], some last =>
    if o.has 't' then misuse 1 "missing file operand"
    else misuse 1 ("missing destination file operand after " ++ inQuotes last)
  | _, none => misuse 1 "missing file operand"
  | source :: others, some last =>
    let found ← nodeAt follow last
    let isDirectory := match found with
      | .ok (_, .directory) => true
      | _ => false
    if o.has 'T' then
      match others with
      | [] => handle source last
      | _ => misuse 1 ("extra operand " ++ inQuotes last)
    else if !isDirectory && (!others.isEmpty || o.has 't') then
      let what := if o.has 't' then "target directory " else "target "
      refuse 1 (what ++ inQuotes last ++ ": " ++ (match found with
        | .error e => e.reason
        | .ok _ => FileError.notADirectory.reason))
    else
      (source :: others).foldlM
        (fun status source => do
          let path ← if isDirectory then destination source last else pure last
          return max status (← handle source path))
        0

def linkTo (o : Options) (target path : Bytes) : Run (Option String) := do
  let symbolic := o.has 's'
  let kind := if symbolic then "symbolic" else "hard"
  let wrong (e : FileError) : Option String :=
    some ("failed to create " ++ kind ++ " link " ++ inQuotes path ++
      (if symbolic || e == .alreadyThere then "" else " => " ++ inQuotes target) ++ ": " ++ e.reason)
  let m ← get
  let source := m.tree.find m.process.working target (o.has 'L')
  let number? := source.toOption.bind m.tree.number?
  let node? := source.toOption.bind m.tree.node?
  let accessed (e : FileError) : Option String :=
    some ("failed to access " ++ inQuotes target ++ ": " ++ e.reason)
  if !symbolic then
    match source, node? with
    | .error e, _ => return accessed e
    | .ok _, none => return accessed .missing
    | .ok _, some .directory => return some (shown target ++ ": hard link not allowed for directory")
    | .ok _, some _ => pure ()
  match ← placeFor path with
  | .error e => return wrong e
  | .ok place =>
    match m.tree.node? place with
    | none => pure ()
    | some node =>
      if !o.has 'f' then return wrong .alreadyThere
      if node == .directory then return some (shown path ++ ": cannot overwrite directory")
      if (m.tree.find m.process.working path false).toOption == source.toOption then
        return some (inQuotes target ++ " and " ++ inQuotes path ++ " are the same file")
    if symbolic then
      if target.isEmpty then return wrong .missing
      changeTree (·.put place ⟨.link target, 0o777, m.process.now⟩)
    else
      match number? with
      | some number => changeTree (·.name place number)
      | none => return wrong .missing
    if o.has 'v' then
      emitLine (inQuotes path ++ (if symbolic then " -> " else " => ") ++ inQuotes target).toList
    return none

def ln (arguments : List Bytes) : Run Nat :=
  let long := [("symbolic", 's'), ("force", 'f'), ("no-dereference", 'n'), ("verbose", 'v'),
    ("target-directory", 't'), ("no-target-directory", 'T'), ("logical", 'L'), ("physical", 'P'),
    ("relative", 'r'), ("backup", 'b'), ("interactive", 'i')]
  withOptions "sfnvTt:rbiLPFd" long false 1 arguments fun o => do
    match o.rest, o.has 't' || o.has 'T' with
    | [single], false => told (← linkTo o single (lastPart single))
    | _, _ =>
      toDestination o (!o.has 'n') fun source path => do
        told (← linkTo o source path)

def link (arguments : List Bytes) : Run Nat :=
  withOptions "" [] false 1 arguments fun o => do
    match o.rest with
    | [] => misuse 1 "missing operand"
    | [single] => misuse 1 ("missing operand after " ++ inRoundQuotes single)
    | [target, path] =>
      let m ← get
      let wrong (e : FileError) : Run Nat :=
        refuse 1 ("cannot create link " ++ inQuotes path ++ " to " ++ inQuotes target ++ ": " ++
          e.reason)
      match m.tree.find m.process.working target false, ← placeFor path with
      | .error e, _ => wrong e
      | _, .error e => wrong e
      | .ok source, .ok place =>
        match m.tree.number? source, m.tree.node? source, m.tree.node? place with
        | _, none, _ => wrong .missing
        | _, some .directory, _ => wrong (.other 1 "Operation not permitted")
        | some number, some _, none =>
          changeTree (·.name place number)
          return 0
        | _, _, _ => wrong .alreadyThere
    | _ :: _ :: extra :: _ => misuse 1 ("extra operand " ++ inRoundQuotes extra)

def modeText (mode : Nat) : String :=
  let digits := Nat.toDigits 8 mode
  String.ofList (List.replicate (4 - digits.length) '0' ++ digits ++ " (".toList ++
    Mode.shown mode ++ [')'])

/-- Changes the mode of what is at a place, whose path is told in messages. `diagnoses` says that
    a mask which keeps bits is a failure. -/
def changeModeAt (letters : List Char) (diagnoses : Bool) (change : Mode.Change) (path : Bytes)
    (place : Place) : Run (Option String) := do
  let m ← get
  match m.tree.item? place with
  | none => return some ("cannot access " ++ inQuotes path ++ ": " ++ FileError.missing.reason)
  | some item =>
    let isDirectory := item.node == .directory
    let mode := change.apply isDirectory m.process.mask item.mode
    let expected := change.apply isDirectory 0 item.mode
    changeTree (·.changeAt place fun item => { item with mode })
    let tells := letters.contains 'v' || (letters.contains 'c' && mode != item.mode)
    if tells then
      emitLine ("mode of " ++ inQuotes path ++ (if mode == item.mode then
        " retained as " ++ modeText mode
      else " changed from " ++ modeText item.mode ++ " to " ++ modeText mode)).toList
    if diagnoses && Mode.without mode expected != 0 then
      return some (shown path ++ ": new permissions are " ++ String.ofList (Mode.shown mode) ++
        ", not " ++ String.ofList (Mode.shown expected))
    return none

def placesBelow (t : Tree) : Nat → Bytes → Place → List (Bytes × Place)
  | 0, _, _ => []
  | limit + 1, path, place =>
    let start := if path.getLast? == some '/' then path else path ++ ['/']
    (path, place) ::
      ((t.names place).filter fun name => match t.node? (name :: place) with
        | some (.link _) => false
        | _ => true).flatMap fun name =>
          placesBelow t limit (start ++ name) (name :: place)

/-- What the arguments of `chmod` ask for: its letters, the mode if it is given as an option, a file
    to take it from, and other arguments. -/
structure ModeRequest where
  letters : List Char := []
  mode : Option Bytes := none
  like : Option Bytes := none
  rest : List Bytes := []

def modeRequest : List Bytes → ModeRequest → Except String ModeRequest
  | [], r => .ok { r with rest := r.rest.reverse }
  | a :: rest, r =>
    match a with
    | ['-', '-'] => .ok { r with rest := r.rest.reverse ++ rest }
    | '-' :: '-' :: name =>
      let plain := name.takeWhile (· != '=')
      if plain.isPrefixOf "reference".toList && name.length ≠ plain.length then
        modeRequest rest { r with like := some (name.drop (plain.length + 1)) }
      else if plain == "recursive".toList then modeRequest rest { r with letters := 'R' :: r.letters }
      else if plain == "verbose".toList then modeRequest rest { r with letters := 'v' :: r.letters }
      else if plain == "changes".toList then modeRequest rest { r with letters := 'c' :: r.letters }
      else if plain == "quiet".toList || plain == "silent".toList then
        modeRequest rest { r with letters := 'f' :: r.letters }
      else if plain == "preserve-root".toList || plain == "no-preserve-root".toList then
        modeRequest rest r
      else .error ("unrecognized option '" ++ shown a ++ "'")
    | '-' :: c :: letters =>
      if (c :: letters).all "Rcfv".toList.contains then
        modeRequest rest { r with letters := letters ++ c :: r.letters }
      else if "rwxXstugoa,+=01234567".toList.contains c then
        let mode := match r.mode with
          | some before => before ++ ',' :: a
          | none => a
        modeRequest rest { r with mode := some mode }
      else .error ("invalid option -- '" ++ c.toString ++ "'")
    | a => modeRequest rest { r with rest := a :: r.rest }

def chmod (arguments : List Bytes) : Run Nat := do
  match modeRequest arguments {} with
  | .error message => misuse 1 message
  | .ok r =>
    let (mode?, paths) := match r.like, r.mode, r.rest with
      | none, none, mode :: paths => (some mode, paths)
      | _, mode, paths => (mode, paths)
    let m ← get
    let change ← match r.like, mode? with
      | some like, _ =>
        match m.tree.lookItem m.process.working like true with
        | .ok item => pure (Except.ok (some (Mode.Change.octal item.mode true)))
        | .error e => pure (Except.error
            ("failed to get attributes of " ++ inQuotes like ++ ": " ++ e.reason))
      | none, some text => pure (Except.ok (Mode.change? text))
      | none, none => pure (Except.ok none)
    match change, mode?, paths with
    | .error message, _, _ => refuse 1 message
    | _, none, [] => misuse 1 "missing operand"
    | _, some mode, [] => misuse 1 ("missing operand after " ++ inRoundQuotes mode)
    | .ok none, mode?, _ => misuse 1 ("invalid mode: " ++ inRoundQuotes (mode?.getD []))
    | .ok (some change), _, paths =>
      paths.foldlM
        (fun status path => do
          let m ← get
          let complained (text : String) : Run Nat := do
            if !r.letters.contains 'f' then complain text
            return 1
          match m.tree.find m.process.working path true with
          | .error e => complained ("cannot access " ++ inQuotes path ++ ": " ++ e.reason)
          | .ok place =>
            let isLink := match m.tree.find m.process.working path false with
              | .ok own => own != place && (m.tree.node? place).isNone
              | .error _ => false
            if isLink then complained ("cannot operate on dangling symlink " ++ inQuotes path)
            else
              let all := if r.letters.contains 'R' then placesBelow m.tree 100 path place
                else [(path, place)]
              all.foldlM
                (fun status (path, place) => do
                  match ← changeModeAt r.letters r.mode.isSome change path place with
                  | none => return status
                  | some message => complained message)
                status)
        0

def accounts : List String :=
  ["root", "daemon", "bin", "sys", "sync", "games", "man", "lp", "mail", "news", "uucp", "proxy",
    "www-data", "backup", "list", "irc", "nobody", "adm", "tty", "disk", "staff", "users", "nogroup"]

def chown (isGroup : Bool) (arguments : List Bytes) : Run Nat :=
  let long := [("recursive", 'R'), ("verbose", 'v'), ("changes", 'c'), ("silent", 'f'),
    ("quiet", 'f'), ("no-dereference", 'h'), ("reference", 'r')]
  withOptions "RvcfhHLPr:" long false 1 arguments fun o => do
    let isKnown (name : Bytes) : Bool :=
      name.isEmpty || name.all Char.isDigit || accounts.contains (String.ofList name)
    let isPresent (path : Bytes) : Run (Option String) := do
      match ← nodeAt (!o.has 'h') path with
      | .ok _ => return none
      | .error e => return some ("cannot access " ++ inQuotes path ++ ": " ++ e.reason)
    match o.has 'r', o.rest with
    | _, [] => misuse 1 "missing operand"
    | true, paths => forEachArgument paths isPresent
    | false, [owner] => misuse 1 ("missing operand after " ++ inRoundQuotes owner)
    | false, owner :: paths =>
      let user := owner.takeWhile fun c => c != ':'
      if !isKnown user then
        refuse 1 ((if isGroup then "invalid group: " else "invalid user: ") ++ inRoundQuotes owner)
      else if !isKnown (owner.drop (user.length + 1)) then
        refuse 1 ("invalid group: " ++ inRoundQuotes owner)
      else forEachArgument paths isPresent

def newLetters (t : Tree) (place : Place) (before after : Bytes) (count : Nat) : Nat → Bytes
  | 0 => []
  | limit + 1 =>
    let digits := Run.number (limit + 4096)
    let letters := (List.replicate count 'k' ++ digits).reverse.take count |>.reverse
    if (t.node? ((before ++ letters ++ after) :: place)).isNone then letters
    else newLetters t place before after count limit

def mktemp (arguments : List Bytes) : Run Nat :=
  let long := [("directory", 'd'), ("dry-run", 'u'), ("quiet", 'q'), ("tmpdir", 'p'), ("suffix", 's')]
  withOptions "duqp:ts:" long false 1 arguments fun o => do
    let p ← Run.process
    let failed (message : String) : Run Nat := do
      if !o.has 'q' then complain message
      return 1
    let template := o.rest.headD "tmp.XXXXXXXXXX".toList
    let suffix := (o.last? 's').getD []
    let after := template.reverse.takeWhile (· != 'X') |>.reverse
    let body := template.take (template.length - after.length)
    let count := (body.reverse.takeWhile (· == 'X')).length
    let before := body.take (body.length - count)
    let usual := ((Run.valueOf p "TMPDIR").filter (!·.isEmpty)).getD "/tmp".toList
    let directory : Bytes :=
      match (o.last? 'p').filter (!·.isEmpty) with
      | some directory => directory ++ ['/']
      | none => if o.rest.isEmpty || o.has 'p' || o.has 't' then usual ++ ['/'] else []
    let inside := o.has 't' || o.has 'p'
    match o.rest with
    | _ :: _ :: _ => misuse 1 "too many templates"
    | _ =>
      if o.has 's' && template.getLast? != some 'X' then
        failed ("with --suffix, template " ++ inRoundQuotes template ++ " must end in X")
      else if count < 3 then failed ("too few X's in template " ++ inRoundQuotes template)
      else if after.contains '/' || suffix.contains '/' then
        failed ("invalid suffix " ++ inRoundQuotes (after ++ suffix) ++
          ", contains directory separator")
      else if o.has 't' && template.contains '/' then
        failed ("invalid template, " ++ inRoundQuotes template ++ ", contains directory separator")
      else if inside && template.head? == some '/' then
        failed ("invalid template, " ++ inRoundQuotes template ++
          "; with --tmpdir, it may not be absolute")
      else
        match ← placeFor (directory ++ template) with
        | .error e =>
          let what := if o.has 'd' then "directory" else "file"
          failed ("failed to create " ++ what ++ " via template " ++
            inRoundQuotes (directory ++ template ++ suffix) ++ ": " ++ e.reason)
        | .ok place =>
          let nameStart := lastPart (['/'] ++ before)
          let start := if before.getLast? == some '/' || before.isEmpty then [] else nameStart
          let letters := newLetters (← get).tree place.tail start (after ++ suffix) count 1000
          if !o.has 'u' then
            let made := (start ++ letters ++ after ++ suffix) :: place.tail
            if o.has 'd' then Run.make made .directory 0o700 else Run.make made (.file []) 0o600
          emitLine (directory ++ before ++ letters ++ after ++ suffix)
          return 0

def sizeWithUnit? (text : Bytes) : Option Nat := do
  let digits := text.takeWhile Char.isDigit
  let units := "KMGTPEZY".toList
  let n := Text.decimalValue digits
  let power (c : Char) : Option Nat := (units.idxOf? c.toUpper).map (· + 1)
  match digits, text.drop digits.length with
  | [], _ => none
  | _, [] => some n
  | _, ['b'] => some (512 * n)
  | _, ['k'] => some (1024 * n)
  | _, [c] => (power c).map (n * Nat.pow 1024 ·)
  | _, [c, 'B'] => (power c).map (n * Nat.pow 1000 ·)
  | _, [c, 'i', 'B'] => (power c).map (n * Nat.pow 1024 ·)
  | _, _ => none

def changedSize? (was : Nat) (text : Bytes) : Option Nat := do
  match text.dropWhile (· == ' ') with
  | '+' :: rest => return was + (← sizeWithUnit? rest)
  | '-' :: rest => return was - (← sizeWithUnit? rest)
  | '<' :: rest => return min was (← sizeWithUnit? rest)
  | '>' :: rest => return max was (← sizeWithUnit? rest)
  | '/' :: rest =>
    let n ← sizeWithUnit? rest
    if n = 0 then none else some (was / n * n)
  | '%' :: rest =>
    let n ← sizeWithUnit? rest
    if n = 0 then none else some ((was + n - 1) / n * n)
  | rest => sizeWithUnit? rest

def truncate (arguments : List Bytes) : Run Nat :=
  let long := [("no-create", 'c'), ("size", 's'), ("reference", 'r'), ("io-blocks", 'o')]
  withOptions "cs:r:o" long false 1 arguments fun o => do
    let m ← get
    let like : Except String Nat := match o.last? 'r' with
      | none => .ok 0
      | some path =>
        match m.tree.look m.process.working path true with
        | .ok (.file content) => .ok content.length
        | .ok _ => .ok 0
        | .error e => .error ("cannot stat " ++ inQuotes path ++ ": " ++ e.reason)
    match o.last? 's', like with
    | _, .error message => refuse 1 message
    | none, .ok reference =>
      if !o.has 'r' then 
        misuse 1 ("you must specify either " ++ inRoundQuotes "--size".toList ++ " or " ++
          inRoundQuotes "--reference".toList)
      else if o.rest.isEmpty then misuse 1 "missing file operand"
      else resize o (fun _ => some reference)
    | some text, .ok reference =>
      if (changedSize? 0 text).isNone then refuse 1 ("Invalid number: " ++ inRoundQuotes text)
      else if o.rest.isEmpty then misuse 1 "missing file operand"
      else
        resize o fun was => changedSize? (if o.has 'r' then reference else was) text
where
  resize (o : Options) (size : Nat → Option Nat) : Run Nat :=
    forEachArgument o.rest fun path => do
      let m ← get
      let wrong (e : FileError) : Option String :=
        some ("cannot open " ++ inQuotes path ++ " for writing: " ++ e.reason)
      match m.tree.target m.process.working path with
      | .error e => return if o.has 'c' && e == .missing then none else wrong e
      | .ok place =>
        if (m.tree.node? place).isNone then
          if o.has 'c' then return none
          Run.make place (.file []) 0o666
        match (← get).tree.node? place, (← get).tree.number? place with
        | some (.file content), some number =>
          let n := (size content.length).getD content.length
          if 8000000 < n then
            return some ("failed to truncate " ++ inQuotes path ++ " at " ++ toString n ++
              " bytes: File too large")
          Run.setContent number (content.take n ++ List.replicate (n - content.length) '\x00')
          return none
        | some .directory, _ => return wrong .isADirectory
        | _, _ =>
          return some ("failed to truncate " ++ inQuotes path ++ " at 0 bytes: Invalid argument")

end Gesture.Shell.Program
