import Gesture.Shell.Program.Text

namespace Gesture.Shell.Program

def withoutSlashes (path : Bytes) : Bytes :=
  let kept := (path.reverse.dropWhile (· == '/')).reverse
  if kept.isEmpty && !path.isEmpty then ['/'] else kept

def lastPart (path : Bytes) : Bytes :=
  let kept := withoutSlashes path
  if kept == ['/'] then kept else (kept.reverse.takeWhile (· != '/')).reverse

def firstParts (path : Bytes) : Bytes :=
  let kept := withoutSlashes path
  if kept == ['/'] then kept
  else if !kept.contains '/' then ['.']
  else withoutSlashes (kept.reverse.dropWhile (· != '/')).reverse

def withoutEnding (ending name : Bytes) : Bytes :=
  if ending.isSuffixOf name && ending.length < name.length then
    name.take (name.length - ending.length)
  else name

def basename (arguments : List Bytes) : Run Nat :=
  let long := [("multiple", 'a'), ("suffix", 's'), ("zero", 'z')]
  withOptions "as:z" long true 1 arguments fun o => do
    let ending := if o.has 'z' then ['\x00'] else ['\n']
    match o.rest with
    | [] => misuse 1 "missing operand"
    | name :: rest =>
      if o.has 'a' || o.has 's' then
        (name :: rest).forM fun path =>
          emit (withoutEnding ((o.last? 's').getD []) (lastPart path) ++ ending)
        return 0
      else
        match rest with
        | _ :: extra :: _ => misuse 1 ("extra operand " ++ inRoundQuotes extra)
        | _ =>
          let part := lastPart name
          emit ((if part == ['/'] then part else withoutEnding (rest.headD []) part) ++ ending)
          return 0

def dirname (arguments : List Bytes) : Run Nat :=
  withOptions "z" [("zero", 'z')] true 1 arguments fun o => do
    if o.rest.isEmpty then misuse 1 "missing operand"
    else
      o.rest.forM fun path =>
        emit (firstParts path ++ (if o.has 'z' then ['\x00'] else ['\n']))
      return 0

def nodeAt (follow : Bool) (path : Bytes) : Run (Except FileError (Place × Node)) := do
  let m ← get
  return do
    let place ← m.tree.find m.process.working path follow
    match m.tree.node? place with
    | some node => return (place, node)
    | none => throw .missing

def placeFor (path : Bytes) : Run (Except FileError Place) := do
  let m ← get
  let trimmed := if 1 < path.length then withoutSlashes path else path
  return do
    let place ← m.tree.find m.process.working trimmed false
    match m.tree.node? place.tail with
    | some .directory => return place
    | some _ => throw .notADirectory
    | none => throw .missing

def changeTree (f : Tree → Tree) : Run Unit :=
  modify fun m => { m with tree := f m.tree }

def told (message : Option String) : Run Nat := do
  match message with
  | none => return 0
  | some message => refuse 1 message

def forEachArgument (arguments : List Bytes) (handle : Bytes → Run (Option String)) : Run Nat :=
  arguments.foldlM (fun status argument => do return max status (← told (← handle argument))) 0

def fullPath (all : Bool) (path : Bytes) : Run (Except FileError Bytes) := do
  let m ← get
  let trimmed := if 1 < path.length then withoutSlashes path else path
  return do
    let place ← m.tree.find m.process.working trimmed true
    if all && (m.tree.node? place).isNone then throw .missing
    match m.tree.node? place.tail with
    | some .directory => return place.path
    | some _ => throw .notADirectory
    | none => throw .missing

def plainPath (path : Bytes) : Run Bytes := do
  let m ← get
  let start : Place := if path.head? == some '/' then [] else m.process.working
  let place := (pathParts path).foldl
    (fun (place : Place) part =>
      if part == ['.'] then place
      else if part == ['.', '.'] then place.tail
      else part :: place)
    start
  return place.path

def readlink (arguments : List Bytes) : Run Nat :=
  let long := [("canonicalize", 'f'), ("canonicalize-existing", 'e'),
    ("canonicalize-missing", 'm'), ("no-newline", 'n'), ("zero", 'z'), ("verbose", 'v')]
  withOptions "femnzvqs" long false 1 arguments fun o => do
    if o.rest.isEmpty then misuse 1 "missing operand"
    else
      let ending := if o.has 'n' && o.rest.length = 1 then [] else if o.has 'z' then ['\x00'] else ['\n']
      o.rest.foldlM
        (fun status path => do
          let found : Except FileError Bytes ←
            if o.has 'm' then pure (Except.ok (← plainPath path))
            else if o.has 'f' || o.has 'e' then fullPath (o.has 'e') path
            else
              match ← nodeAt false path with
              | .ok (_, .link target) => pure (Except.ok target)
              | .ok _ => pure (Except.error FileError.invalid)
              | .error e => pure (Except.error e)
          match found with
          | .ok text =>
            emit (text ++ ending)
            return status
          | .error e =>
            if o.has 'v' then complain (named path ++ ": " ++ e.reason)
            return 1)
        0

def realpath (arguments : List Bytes) : Run Nat :=
  let long := [("canonicalize-existing", 'e'), ("canonicalize-missing", 'm'), ("quiet", 'q'),
    ("strip", 's'), ("no-symlinks", 's'), ("zero", 'z')]
  withOptions "emqszLP" long false 1 arguments fun o => do
    if o.rest.isEmpty then misuse 1 "missing operand"
    else
      forEachArgument o.rest fun path => do
        let found : Except FileError Bytes ←
          if o.has 'm' || o.has 's' then pure (Except.ok (← plainPath path))
          else fullPath (o.has 'e') path
        match found with
        | .ok text =>
          emit (text ++ (if o.has 'z' then ['\x00'] else ['\n']))
          return none
        | .error e => return some (named path ++ ": " ++ e.reason)

end Gesture.Shell.Program
