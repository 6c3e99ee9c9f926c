import Gesture.Path

namespace Gesture

/-- Why a file cannot be read or written. Causes that the tree of files does not have are known by
    their number. -/
inductive FileError where
  | missing
  | notADirectory
  | isADirectory
  | nameTooLong
  | other (number : Nat) (reason : String)
  deriving DecidableEq, Repr

def FileError.number : FileError → Nat
  | .missing => 2
  | .notADirectory => 20
  | .isADirectory => 21
  | .nameTooLong => 36
  | .other number _ => number

def FileError.reason : FileError → String
  | .missing => "No such file or directory"
  | .notADirectory => "Not a directory"
  | .isADirectory => "Is a directory"
  | .nameTooLong => "File name too long"
  | .other _ reason => reason

def FileError.message (e : FileError) (path : Path) : String :=
  "[Errno " ++ toString e.number ++ "] " ++ e.reason ++ ": " ++ path.text.quoted

inductive FileNode where
  | directory
  | file (bytes : List UInt8)
  deriving DecidableEq, Repr

/-- Files and directories by the parts of their absolute paths, latest first, and the working
    directory. -/
structure Files where
  nodes : List (List CodeText × FileNode)
  working : List CodeText
  deriving Repr

namespace Files

def node? (f : Files) (place : List CodeText) : Option FileNode :=
  if place = [] then some .directory else f.nodes.lookup place

def enter (f : Files) (place : List CodeText) (part : CodeText) : Except FileError (List CodeText) :=
  match f.node? place with
  | some .directory =>
    if part = CodeText.ofString ".." then .ok place.dropLast
    else if 255 < part.size then .error .nameTooLong
    else .ok (place ++ [part])
  | some (.file _) => .error .notADirectory
  | none => .error .missing

def find (f : Files) (p : Path) : Except FileError (List CodeText) :=
  if 4096 ≤ p.text.size then .error .nameTooLong
  else p.parts.foldlM f.enter (if p.isAbsolute then [] else f.working)

def read (f : Files) (p : Path) : Except FileError (List UInt8) := do
  match f.node? (← f.find p) with
  | some (.file bytes) => return bytes
  | some .directory => throw .isADirectory
  | none => throw .missing

def write (f : Files) (p : Path) (bytes : List UInt8) : Except FileError Files := do
  let place ← f.find p
  match f.node? place, f.node? place.dropLast with
  | some .directory, _ => throw .isADirectory
  | _, some .directory => return { f with nodes := (place, .file bytes) :: f.nodes }
  | _, some (.file _) => throw .notADirectory
  | _, none => throw .missing

def makeDirectory (made : Files × List CodeText) (part : CodeText) : Files × List CodeText :=
  let (f, place) := made
  if part = CodeText.ofString ".." then (f, place.dropLast)
  else
    let inner := place ++ [part]
    match f.node? inner with
    | some _ => (f, inner)
    | none => ({ f with nodes := (inner, .directory) :: f.nodes }, inner)

def withDirectory (f : Files) (p : Path) : Files × List CodeText :=
  p.parts.foldl makeDirectory (f, if p.isAbsolute then [] else f.working)

def withFile (f : Files) (p : Path) (bytes : List UInt8) : Files :=
  let (f, place) := f.withDirectory p.parent
  let place := match p.parts.getLast? with
    | some name => if name = CodeText.ofString ".." then place.dropLast else place ++ [name]
    | none => place
  { f with nodes := (place, .file bytes) :: f.nodes }

end Files

end Gesture
