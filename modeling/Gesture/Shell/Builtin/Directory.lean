import Gesture.Shell.Builtin.Basic
import Gesture.Shell.Mode

namespace Gesture.Shell.Builtin

def cleanParts (parts : List Bytes) (start : List Bytes) : List Bytes :=
  parts.foldl
    (fun place part =>
      if part == ['.'] then place else if part == ['.', '.'] then place.tail else part :: place)
    start

def cleanPath (working path : Bytes) : Bytes :=
  let start := if path.head? == some '/' then [] else (pathParts working).reverse
  Place.path (cleanParts (pathParts path) start)

def enter (physical : Bool) (path : Bytes) : Run Bool := do
  let m ← get
  let p := m.process
  let target := if physical then path else cleanPath p.workingPath path
  match m.tree.find p.working target true with
  | .error _ => return false
  | .ok place =>
    if m.tree.node? place != some .directory then return false
    Run.assign "OLDPWD".toList p.workingPath true
    let shown := if physical then Place.path place else target
    Run.update fun p => { p with working := place, workingPath := shown, recalled := [] }
    Run.assign "PWD".toList shown true
    return true

def isRooted (path : Bytes) : Bool :=
  match path with
  | '/' :: _ => true
  | ['.'] | ['.', '.'] => true
  | '.' :: '/' :: _ | '.' :: '.' :: '/' :: _ => true
  | _ => false

def changeDirectory (arguments : List Bytes) : Run Nat := do
  let (options, names) ← optionsOf "LP" arguments
  let physical := options.getLast?.map (·.1) == some 'P'
  let p ← Run.process
  let (path, shown) := match names with
    | [] => ((Run.valueOf p "HOME").getD [], false)
    | ['-'] :: _ => ((Run.valueOf p "OLDPWD").getD [], true)
    | path :: _ => (path, false)
  let path := if path.isEmpty then ['.'] else path
  let bases := if isRooted path then [] else ((Run.valueOf p "CDPATH").getD []).splitOn ':'
  let m ← get
  let found := bases.find? fun base =>
    !base.isEmpty && (m.tree.look p.working (base ++ '/' :: path) true).toOption == some .directory
  let (target, shown) := match found with
    | some base => (base ++ '/' :: path, true)
    | none => (path, shown)
  if ← enter physical target then
    if shown then outLine (← Run.process).workingPath
    return 0
  else Run.failWith ("can't cd to ".toList ++ path)

def printDirectory (arguments : List Bytes) : Run Nat := do
  let (options, _) ← optionsOf "LP" arguments
  let p ← Run.process
  outLine (if options.getLast?.map (·.1) == some 'P' then Place.path p.working else p.workingPath)
  return 0

def octalText (n : Nat) : Bytes :=
  let digits := Nat.toDigits 8 n
  List.replicate (4 - digits.length) '0' ++ digits

def symbolicMask (n : Nat) : Bytes :=
  let letters (bits : Nat) : Bytes :=
    (if bits / 4 % 2 = 0 then ['r'] else []) ++ (if bits / 2 % 2 = 0 then ['w'] else []) ++
      (if bits % 2 = 0 then ['x'] else [])
  "u=".toList ++ letters (n / 64 % 8) ++ ",g=".toList ++ letters (n / 8 % 8) ++ ",o=".toList ++
    letters (n % 8)

def mask (arguments : List Bytes) : Run Nat := do
  let (options, rest) ← optionsOf "S" arguments
  match rest with
  | [] =>
    let n := (← Run.process).mask
    outLine (if options.isEmpty then octalText n else symbolicMask n)
    return 0
  | digits :: _ =>
    if digits.all fun c => '0' ≤ c && c ≤ '7' then
      let n := digits.foldl (fun n c => 8 * n + (c.toNat - 0x30)) 0
      Run.update fun p => { p with mask := n % 512 }
      return 0
    else if (digits.head?.map Char.isDigit).getD false then
      Run.failWith ("Illegal number: ".toList ++ digits)
    else
      match Mode.change? digits with
      | none => Run.failWith ("Illegal mode: ".toList ++ digits)
      | some c =>
        Run.update fun p =>
          let allowed := c.apply false p.mask (Mode.without 0o777 p.mask)
          { p with mask := Mode.without 0o777 allowed }
        return 0

end Gesture.Shell.Builtin
