import Gesture.Shell.Program.Making

namespace Gesture.Shell.Program

def asks (question : String) : Run Bool := do
  Run.say 2 ((← ownName) ++ ": ".toList ++ question.toList ++ "? ".toList)
  match ← Run.receiveLine 0 with
  | .ok (line, _) => return line.head? == some 'y' || line.head? == some 'Y'
  | .error _ => return false

def mayReplace (o : Options) (source : Item) (path : Bytes) (old : Item) : Run Bool := do
  if o.has 'n' then return false
  if o.has 'u' && decide (source.time ≤ old.time) then return false
  if o.has 'i' && !o.has 'f' then asks ("overwrite " ++ inQuotes path)
  else return true

def keepOld (o : Options) (place : Place) : Run Unit := do
  if o.has 'b' then
    match place with
    | name :: parent =>
      let m ← get
      match m.tree.number? place with
      | some number =>
        let mark := ((o.last? 'S').filter (!·.isEmpty)).getD ['~']
        changeTree fun t => (t.remove place).name ((name ++ mark) :: parent) number
      | none => pure ()
    | [] => pure ()

structure Copying where
  options : Options
  deep : Bool
  follow : Bool
  preserve : Bool

def copyingOf (o : Options) : Copying :=
  let deep := o.has 'r' || o.has 'R' || o.has 'a'
  let follow := o.letters.foldl
    (fun follow (letter, _) => match letter with
      | 'L' => true
      | 'P' | 'd' | 'a' => false
      | _ => follow)
    (!deep)
  { options := o, deep, follow, preserve := o.has 'p' || o.has 'a' }

def copiedItem (c : Copying) (item : Item) : Run Item := do
  if c.preserve then return item
  let mode ← match item.node with
    | .link _ => pure 0o777
    | _ => Run.maskedMode item.mode
  return ⟨item.node, mode, (← Run.process).now⟩

def copySingle (c : Copying) (source target : Bytes) (item : Item) (number? : Option Nat) :
    Run (Option String) := do
  let m ← get
  let isLink := match item.node with
    | .link _ => true
    | _ => false
  let copied ← copiedItem c item
  let telling : Run (Option String) := do
    if c.options.has 'v' then emitLine (inQuotes source ++ " -> " ++ inQuotes target).toList
    return none
  let replaces := isLink || c.options.has 's' || c.options.has 'l'
  let fails (e : FileError) : Option String :=
    some ("cannot create regular file " ++ inQuotes target ++ ": " ++ e.reason)
  let putNew (place : Place) : Run (Option String) := do
    if c.options.has 's' then
      changeTree (·.put place ⟨.link source, 0o777, m.process.now⟩)
    else
      match c.options.has 'l', number? with
      | true, some number => changeTree (·.name place number)
      | _, _ => changeTree (·.put place copied)
    telling
  match m.tree.find m.process.working target false with
  | .error e =>
    return fails (if target.getLast? == some '/' && e == .missing then .notADirectory else e)
  | .ok place =>
    match m.tree.item? place with
    | none =>
      match m.tree.node? place.tail with
      | some .directory => putNew place
      | some _ => return fails .notADirectory
      | none => return fails .missing
    | some old =>
      let through := m.tree.find m.process.working target true
      let end? := through.toOption.bind m.tree.item?
      let endNumber? := through.toOption.bind m.tree.number?
      if number?.isSome && (m.tree.number? place == number? || (!replaces && endNumber? == number?)) then
        if c.options.has 'l' then return none
        return some (inQuotes source ++ " and " ++ inQuotes target ++ " are the same file")
      if old.node == .directory then
        return some ("cannot overwrite directory " ++ inQuotes target ++ " with non-directory")
      if !(← mayReplace c.options item target old) then return none
      if c.options.has 'b' then
        keepOld c.options place
        putNew place
      else if replaces || c.options.has 'x' then
        if (c.options.has 's' || c.options.has 'l') && !c.options.has 'f' then
          return some ("cannot create " ++ (if c.options.has 's' then "symbolic" else "hard") ++
            " link " ++ inQuotes target ++ " to " ++ inQuotes source ++ ": File exists")
        changeTree (·.remove place)
        putNew place
      else
        match end?, endNumber?, copied.node with
        | some ⟨.file _, _, _⟩, some number, .file content =>
          Run.setContent number content
          if c.preserve then
            changeTree (·.change number fun i => { i with mode := item.mode, time := item.time })
          telling
        | some ⟨.device _, _, _⟩, _, _ => telling
        | some ⟨.directory, _, _⟩, _, _ =>
          return some ("cannot overwrite directory " ++ inQuotes target ++ " with non-directory")
        | _, _, _ => return some ("not writing through dangling symlink " ++ inQuotes target)

/-- Copies what is at a path to another one; `limit` bounds how deep directories are. `isNamed`
    says that the path is an argument and not met on the way. -/
def copyAt (c : Copying) (isNamed : Bool) : Nat → Bytes → Bytes → Run Nat
  | 0, _, _ => return 1
  | limit + 1, source, target => do
    let m ← get
    let follow := c.follow || (isNamed && c.options.has 'H')
    match m.tree.find m.process.working source follow with
    | .error e => refuse 1 ("cannot stat " ++ inQuotes source ++ ": " ++ e.reason)
    | .ok origin =>
      match m.tree.item? origin with
      | none => refuse 1 ("cannot stat " ++ inQuotes source ++ ": " ++ FileError.missing.reason)
      | some item =>
        match item.node with
        | .directory =>
          if !c.deep then
            refuse 1 ("-r not specified; omitting directory " ++ inQuotes source)
          else
            let path := withoutSlashes target
            let failed (e : FileError) : Run Nat :=
              refuse 1 ("cannot create directory " ++ inQuotes target ++ ": " ++ e.reason)
            match ← placeFor path with
            | .error e => failed e
            | .ok place =>
              let place := match m.tree.find m.process.working path true with
                | .ok followed => if m.tree.node? followed == some .directory then followed else place
                | .error _ => place
              if place == origin then
                refuse 1 (inQuotes source ++ " and " ++ inQuotes target ++ " are the same file")
              else if origin.isSuffixOf place then
                refuse 1 ("cannot copy a directory, " ++ inQuotes source ++ ", into itself, " ++
                  inQuotes target)
              else
                match m.tree.node? place with
                | some .directory | none =>
                  let copied ← copiedItem c item
                  if (m.tree.node? place).isNone then
                    changeTree (·.put place copied)
                    if c.options.has 'v' then
                      emitLine (inQuotes source ++ " -> " ++ inQuotes target).toList
                  (m.tree.sortedNames origin).foldlM
                    (fun status name => do
                      return max status (← copyAt c false limit (withoutSlashes source ++ '/' :: name)
                        (path ++ '/' :: name)))
                    0
                | some _ =>
                  refuse 1 ("cannot overwrite non-directory " ++ inQuotes target ++
                    " with directory " ++ inQuotes source)
        | .device _ =>
          match ← contentsOf source with
          | .error e => refuse 1 ("error reading " ++ inQuotes source ++ ": " ++ e.reason)
          | .ok bytes => told (← copySingle c source target { item with node := .file bytes } none)
        | _ => told (← copySingle c source target item (m.tree.number? origin))

def cp (arguments : List Bytes) : Run Nat :=
  let long := [("recursive", 'r'), ("archive", 'a'), ("force", 'f'), ("no-clobber", 'n'),
    ("target-directory", 't'), ("no-target-directory", 'T'), ("verbose", 'v'),
    ("dereference", 'L'), ("no-dereference", 'P'), ("interactive", 'i'), ("link", 'l'),
    ("symbolic-link", 's'), ("update", 'u'), ("suffix", 'S'), ("backup", 'b'), ("preserve", 'p'),
    ("remove-destination", 'x'), ("attributes-only", 'A'), ("parents", 'e')]
  withOptions "rRafnvpTt:dLPHiulsbS:" long false 1 arguments fun o =>
    toDestination o true fun source target => copyAt (copyingOf o) true 100 source target

def withoutPlace (t : Tree) (place : Place) : Tree :=
  { t with entries := t.entries.filter fun n => !place.isSuffixOf n.1 }

def withMoved (t : Tree) (source target : Place) : Tree :=
  let kept := (withoutPlace t target).entries
  { t with
    entries := kept.map fun (place, number) =>
      if source.isSuffixOf place then
        (place.take (place.length - source.length) ++ target, number)
      else (place, number) }

def moveTo (o : Options) (source target : Bytes) : Run (Option String) := do
  match ← nodeAt false source with
  | .error e => return some ("cannot stat " ++ inQuotes source ++ ": " ++ e.reason)
  | .ok (origin, node) =>
    let m ← get
    let wrong (e : FileError) : Option String :=
      some ("cannot move " ++ inQuotes source ++ " to " ++ inQuotes target ++ ": " ++ e.reason)
    let last := lastPart source
    if last == ['.'] || last == ['.', '.'] || origin.isEmpty then
      return wrong (.other 16 "Device or resource busy")
    if target.getLast? == some '/' && node != .directory then
      match ← nodeAt true target with
      | .ok _ => pure ()
      | .error _ => return wrong .notADirectory
    match ← placeFor target with
    | .error e => return wrong e
    | .ok place =>
      if place == origin then
        return some (inQuotes source ++ " and " ++ inQuotes target ++ " are the same file")
      if origin.isSuffixOf place then
        return some ("cannot move " ++ inQuotes source ++ " to a subdirectory of itself, " ++
          inQuotes target)
      match m.tree.item? place, m.tree.item? origin with
      | some old, some item =>
        match old.node, node with
        | .directory, .directory =>
          if !(m.tree.names place).isEmpty then return wrong .notEmpty
        | .directory, _ =>
          return some ("cannot overwrite directory " ++ inQuotes target ++ " with non-directory")
        | _, .directory =>
          return some ("cannot overwrite non-directory " ++ inQuotes target ++ " with directory " ++
            inQuotes source)
        | _, _ => pure ()
        if !(← mayReplace o item target old) then return none
        keepOld o place
      | _, _ => pure ()
      changeTree fun t => withMoved t origin place
      if o.has 'v' then emitLine ("renamed " ++ inQuotes source ++ " -> " ++ inQuotes target).toList
      return none

def mv (arguments : List Bytes) : Run Nat :=
  let long := [("force", 'f'), ("no-clobber", 'n'), ("target-directory", 't'),
    ("no-target-directory", 'T'), ("verbose", 'v'), ("interactive", 'i'), ("update", 'u'),
    ("suffix", 'S'), ("backup", 'b')]
  withOptions "fnvTt:iubS:" long false 1 arguments fun o =>
    toDestination o true fun source target => do
      told (← moveTo o source target)

def kindName : Node → String
  | .directory => "directory"
  | .file content => if content.isEmpty then "regular empty file" else "regular file"
  | .link _ => "symbolic link"
  | .device _ => "character special file"

def removeAt (o : Options) (path : Bytes) : Run (Option String) := do
  let deep := o.has 'r' || o.has 'R'
  let wrong (e : FileError) : Option String :=
    some ("cannot remove " ++ inQuotes path ++ ": " ++ e.reason)
  let last := lastPart path
  let telling (what : String) : Run Unit := do
    if o.has 'v' then emitLine ("removed " ++ what ++ inQuotes path).toList
  /- Whether questions are asked depends on the last option about it. -/
  let asking := (o.letters.filter fun (c, _) => c == 'i' || c == 'f').getLast?.any (·.1 == 'i')
  let agreed (node : Node) : Run Bool := do
    if asking then asks ("remove " ++ kindName node ++ " " ++ inQuotes path) else return true
  if deep && (last == ['.'] || last == ['.', '.']) then
    return some ("refusing to remove '.' or '..' directory: skipping " ++ inQuotes path)
  match ← nodeAt false path with
  | .error e => return if o.has 'f' && (e == .missing || e == .notADirectory) then none else wrong e
  | .ok (place, .directory) =>
    if deep then
      if place.isEmpty then
        return some ("it is dangerous to operate recursively on '/'\n" ++
          shown (← ownName) ++ ": use --no-preserve-root to override this failsafe")
      if !(← agreed .directory) then return none
      changeTree (withoutPlace · place)
      telling "directory "
      return none
    else if o.has 'd' then
      if !((← get).tree.names place).isEmpty then return wrong .notEmpty
      if !(← agreed .directory) then return none
      changeTree (·.remove place)
      telling "directory "
      return none
    else return wrong .isADirectory
  | .ok (place, node) =>
    if !(← agreed node) then return none
    changeTree (·.remove place)
    telling ""
    return none

def rm (arguments : List Bytes) : Run Nat :=
  let long := [("recursive", 'r'), ("force", 'f'), ("dir", 'd'), ("verbose", 'v'),
    ("no-preserve-root", 'x'), ("preserve-root", 'x'), ("one-file-system", 'x'),
    ("interactive", 'i')]
  withOptions "rRfdviI" long false 1 arguments fun o => do
    if o.rest.isEmpty && !o.has 'f' then misuse 1 "missing operand"
    else forEachArgument o.rest (removeAt o)

def removeDirectoryAt (o : Options) (isNamed : Bool) (path : Bytes) : Run (Option String) := do
  let wrong (e : FileError) : Option String :=
    some ((if isNamed then "failed to remove " else "failed to remove directory ") ++
      inQuotes path ++ ": " ++ e.reason)
  if o.has 'v' then emitLine ("rmdir: removing directory, " ++ inQuotes path).toList
  if (pathParts path).getLast? == some ['.'] then return wrong .invalid
  match ← nodeAt false path with
  | .error e => return wrong e
  | .ok (place, .directory) =>
    if place.isEmpty then return wrong (.other 16 "Device or resource busy")
    if !((← get).tree.names place).isEmpty then
      return if o.has 'e' then none else wrong .notEmpty
    changeTree (·.remove place)
    return none
  | .ok _ => return wrong .notADirectory

def ancestry (path : Bytes) : List Bytes :=
  let parts := (withoutSlashes path).splitOn '/'
  ((List.range parts.length).map fun i => ['/'].intercalate (parts.take (parts.length - i))).filter
    (!·.isEmpty)

def rmdir (arguments : List Bytes) : Run Nat :=
  let long := [("parents", 'p'), ("verbose", 'v'), ("ignore-fail-on-non-empty", 'e')]
  withOptions "pv" long false 1 arguments fun o => do
    if o.rest.isEmpty then misuse 1 "missing operand"
    else
      forEachArgument o.rest fun path => do
        let paths := if o.has 'p' then ancestry path else [path]
        paths.foldlM
          (fun (failure : Option String) path =>
            if failure.isSome then return failure
            else removeDirectoryAt o (some path == paths.head?) path)
          none

def unlink (arguments : List Bytes) : Run Nat :=
  withOptions "" [] false 1 arguments fun o => do
    match o.rest with
    | [] => misuse 1 "missing operand"
    | [path] =>
      let wrong (e : FileError) : Run Nat :=
        refuse 1 ("cannot unlink " ++ inQuotes path ++ ": " ++ e.reason)
      match ← nodeAt false path with
      | .error e => wrong e
      | .ok (_, .directory) => wrong .isADirectory
      | .ok (place, _) =>
        changeTree (·.remove place)
        return 0
    | _ :: extra :: _ => misuse 1 ("extra operand " ++ inRoundQuotes extra)

def install (arguments : List Bytes) : Run Nat :=
  let long := [("directory", 'd'), ("mode", 'm'), ("target-directory", 't'), ("verbose", 'v'),
    ("no-target-directory", 'T'), ("owner", 'o'), ("group", 'g'), ("backup", 'b'),
    ("preserve-timestamps", 'p'), ("compare", 'C'), ("strip", 's'), ("suffix", 'S')]
  withOptions "dDm:t:vTo:g:bpCscS:" long false 1 arguments fun o => do
    match newMode? o (o.has 'd') 0 with
    | .error text => refuse 1 ("invalid mode " ++ inRoundQuotes text)
    | .ok mode? =>
      let mode := mode?.getD 0o755
      if o.has 'd' then
        if o.rest.isEmpty then misuse 1 "missing file operand"
        else
          let made : Options := { letters := [('p', [])] }
          forEachArgument o.rest fun path => do
            match ← makeDirectories made (some mode) path with
            | some message => return some message
            | none =>
              match ← nodeAt true path with
              | .ok (place, _) =>
                changeTree (·.changeAt place fun item => { item with mode })
                return none
              | .error _ => return none
      else
        if o.has 'D' then
          let front := match o.last? 't' with
            | some directory => directory
            | none => firstParts (o.rest.getLast?.getD [])
          let _ ← makeDirectories { letters := [('p', [])] } none front
        toDestination o true fun source target => do
          let copying : Copying :=
            { options := { letters := ('x', []) :: o.letters.filter fun (c, _) => c == 'b' || c == 'S' }
              deep := false, follow := true, preserve := o.has 'p' }
          match ← nodeAt true source with
          | .ok (_, .directory) => refuse 1 ("omitting directory " ++ inQuotes source)
          | _ =>
            let status ← copyAt copying true 2 source target
            match ← nodeAt false target with
            | .ok (place, .file _) =>
              if status = 0 then
                changeTree (·.changeAt place fun item => { item with mode })
            | _ => pure ()
            if status = 0 && o.has 'v' then
              emitLine (inQuotes source ++ " -> " ++ inQuotes target).toList
            return status

end Gesture.Shell.Program
