import Gesture.Files
import Gesture.Shell.Syntax

namespace Gesture

namespace FileError

def badDescriptor : FileError := .other 9 "Bad file descriptor"
def denied : FileError := .other 13 "Permission denied"
def alreadyThere : FileError := .other 17 "File exists"
def invalid : FileError := .other 22 "Invalid argument"
def noDevice : FileError := .other 6 "No such device or address"
def tooLarge : FileError := .other 27 "File too large"
def noSpace : FileError := .other 28 "No space left on device"
def notEmpty : FileError := .other 39 "Directory not empty"
def tooManyLinks : FileError := .other 40 "Too many levels of symbolic links"

end FileError

namespace Shell

inductive Device where
  | null
  | zero
  | full
  | terminal
  deriving DecidableEq, Repr

inductive Node where
  | directory
  | file (content : Bytes)
  | link (target : Bytes)
  | device (d : Device)
  deriving DecidableEq, Repr

structure Item where
  node : Node
  mode : Nat
  time : Int := 0
  deriving DecidableEq, Repr

def Item.isExecutable (i : Item) : Bool :=
  i.mode / 64 % 2 == 1 || i.mode / 8 % 2 == 1 || i.mode % 2 == 1

abbrev Place := List Bytes

structure Tree where
  entries : List (Place × Nat)
  items : List (Nat × Item)
  next : Nat

def pathParts (path : Bytes) : List Bytes :=
  (path.splitOn '/').filter (!·.isEmpty)

def Place.path : Place → Bytes
  | [] => ['/']
  | place => place.reverse.flatMap fun name => '/' :: name

def placeOf (path : String) : Place :=
  (pathParts path.toList).reverse

namespace Tree

def number? (t : Tree) (place : Place) : Option Nat :=
  t.entries.lookup place

def stored? (t : Tree) (number : Nat) : Option Item :=
  t.items.lookup number

def item? (t : Tree) : Place → Option Item
  | [] => some ⟨.directory, 0o755, 0⟩
  | place => (t.number? place).bind t.stored?

def node? (t : Tree) (place : Place) : Option Node :=
  (t.item? place).map (·.node)

def name (t : Tree) (place : Place) (number : Nat) : Tree :=
  { t with entries := (place, number) :: t.entries.filter (·.1 != place) }

def put (t : Tree) (place : Place) (item : Item) : Tree :=
  name { t with items := (t.next, item) :: t.items, next := t.next + 1 } place t.next

def change (t : Tree) (number : Nat) (f : Item → Item) : Tree :=
  { t with items := t.items.map fun (n, item) => if n == number then (n, f item) else (n, item) }

def changeAt (t : Tree) (place : Place) (f : Item → Item) : Tree :=
  match t.number? place with
  | some number => t.change number f
  | none => t

def remove (t : Tree) (place : Place) : Tree :=
  { t with entries := t.entries.filter (·.1 != place) }

def nameCount (t : Tree) (number : Nat) : Nat :=
  t.entries.countP (·.2 == number)

def names (t : Tree) (place : Place) : List Bytes :=
  t.entries.filterMap fun (p, _) =>
    match p with
    | name :: parent => if parent == place then some name else none
    | [] => none

def sortedNames (t : Tree) (place : Place) : List Bytes :=
  (t.names place).mergeSort Bytes.isSorted

/-- The place that parts lead to from another one. It need not exist, but all before it has to. Links
    are followed, except for a last one that is asked for itself; `limit` bounds how many steps may
    be taken. -/
def walk (t : Tree) (follow : Bool) : Nat → Place → List Bytes → Except FileError Place
  | 0, _, _ => .error .tooManyLinks
  | _ + 1, place, [] => .ok place
  | limit + 1, place, part :: rest =>
    match t.node? place with
    | none => .error .missing
    | some .directory =>
      if part == ['.'] then walk t follow limit place rest
      else if part == ['.', '.'] then walk t follow limit place.tail rest
      else if 255 < part.length then .error .nameTooLong
      else
        match t.node? (part :: place) with
        | some (.link target) =>
          if rest.isEmpty && !follow then .ok (part :: place)
          else
            let start := if target.head? == some '/' then [] else place
            walk t follow limit start (pathParts target ++ rest)
        | _ => walk t follow limit (part :: place) rest
    | some _ => .error .notADirectory

def find (t : Tree) (working : Place) (path : Bytes) (follow : Bool) :
    Except FileError Place := do
  if path.isEmpty then throw .missing
  if 4096 ≤ path.length then throw .nameTooLong
  let start := if path.head? == some '/' then [] else working
  let place ← t.walk follow (4 * path.length + 200) start (pathParts path)
  if path.getLast? == some '/' then
    match t.node? place with
    | some .directory => return place
    | some _ => throw .notADirectory
    | none => throw .missing
  return place

def lookItem (t : Tree) (working : Place) (path : Bytes) (follow : Bool) :
    Except FileError Item := do
  match t.item? (← t.find working path follow) with
  | some item => return item
  | none => throw .missing

def look (t : Tree) (working : Place) (path : Bytes) (follow : Bool) :
    Except FileError Node :=
  (t.lookItem working path follow).map (·.node)

def target (t : Tree) (working : Place) (path : Bytes) : Except FileError Place := do
  let place ← t.find working path true
  match t.node? place.tail with
  | some .directory => return place
  | some _ => throw .notADirectory
  | none => throw .missing

def directories : List String :=
  ["/boot", "/dev", "/dev/pts", "/dev/shm", "/etc", "/home", "/media",
    "/mnt", "/opt", "/proc", "/root", "/run", "/srv", "/sys", "/tmp", "/usr", "/usr/bin",
    "/usr/games", "/usr/include", "/usr/lib", "/usr/lib64", "/usr/local", "/usr/local/bin",
    "/usr/local/lib", "/usr/local/sbin", "/usr/sbin", "/usr/share", "/usr/src", "/var",
    "/var/lib", "/var/log", "/var/tmp"]

def programMark : Bytes := '\x7f' :: "ELF".toList

def programOf? (content : Bytes) : Option Bytes :=
  if programMark.isPrefixOf content then some (content.drop programMark.length) else none

def early : Int := Int.negSucc 86399999999

def usual (programs : List String) : Tree :=
  let made := directories.map fun path =>
    let mode := if path == "/tmp" || path == "/var/tmp" then 0o1777
      else if path == "/root" then 0o700 else 0o755
    (placeOf path, Item.mk .directory mode early)
  let devices := [("/dev/null", Device.null), ("/dev/zero", .zero), ("/dev/full", .full),
    ("/dev/random", .zero), ("/dev/urandom", .zero), ("/dev/tty", .terminal),
    ("/dev/ptmx", .terminal)].map fun (path, d) => (placeOf path, Item.mk (.device d) 0o666 early)
  let files := ["/etc/passwd", "/etc/group", "/etc/hosts", "/etc/hostname", "/etc/profile"].map
    fun path => (placeOf path, Item.mk (.file "\n".toList) 0o644 early)
  let links := ["bin", "lib", "lib64", "sbin"].map fun name =>
    ([name.toList], Item.mk (.link ("usr/" ++ name).toList) 0o777 early)
  let streams := ["stdin", "stdout", "stderr", "fd"].map fun name =>
    (placeOf ("/dev/" ++ name), Item.mk (.link "/proc/self/fd".toList) 0o777 early)
  let shown := programs.map fun name =>
    (name.toList :: placeOf "/usr/bin",
      Item.mk (.file (programMark ++ name.toList)) 0o755 early)
  let all := made ++ devices ++ files ++ links ++ streams ++ shown
  ⟨all.zipIdx.map fun (e, n) => (e.1, n + 100), all.zipIdx.map fun (e, n) => (n + 100, e.2),
    all.length + 100⟩

end Tree

end Shell

end Gesture
