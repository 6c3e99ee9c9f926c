import Gesture.Shell.Program.Size
import Gesture.Shell.Regular

namespace Gesture.Shell.Program

def doubleColumns : List (Nat × Nat) :=
  [(0x1100, 0x115F), (0x231A, 0x231B), (0x2329, 0x232A), (0x23E9, 0x23EC), (0x23F0, 0x23F0),
    (0x23F3, 0x23F3), (0x25FD, 0x25FE), (0x2614, 0x2615), (0x2648, 0x2653), (0x267F, 0x267F),
    (0x2693, 0x2693), (0x26A1, 0x26A1), (0x26AA, 0x26AB), (0x26BD, 0x26BE), (0x26C4, 0x26C5),
    (0x26CE, 0x26CE), (0x26D4, 0x26D4), (0x26EA, 0x26EA), (0x26F2, 0x26F3), (0x26F5, 0x26F5),
    (0x26FA, 0x26FA), (0x26FD, 0x26FD), (0x2705, 0x2705), (0x270A, 0x270B), (0x2728, 0x2728),
    (0x274C, 0x274C), (0x274E, 0x274E), (0x2753, 0x2755), (0x2757, 0x2757), (0x2795, 0x2797),
    (0x27B0, 0x27B0), (0x27BF, 0x27BF), (0x2B1B, 0x2B1C), (0x2B50, 0x2B50), (0x2B55, 0x2B55),
    (0x2E80, 0x303E), (0x3041, 0x4DBF), (0x4E00, 0xA4C6), (0xA960, 0xA97C), (0xAC00, 0xD7A3),
    (0xF900, 0xFAFF), (0xFE10, 0xFE19), (0xFE30, 0xFE6B), (0xFF01, 0xFF60), (0xFFE0, 0xFFE6),
    (0x16FE0, 0x18CD5), (0x1B000, 0x1B2FB), (0x1F004, 0x1F004), (0x1F0CF, 0x1F0CF),
    (0x1F18E, 0x1F18E), (0x1F191, 0x1F19A), (0x1F200, 0x1F320), (0x1F32D, 0x1F335),
    (0x1F337, 0x1F37C), (0x1F37E, 0x1F393), (0x1F3A0, 0x1F3CA), (0x1F3CF, 0x1F3D3),
    (0x1F3E0, 0x1F3F0), (0x1F3F4, 0x1F3F4), (0x1F3F8, 0x1F43E), (0x1F440, 0x1F440),
    (0x1F442, 0x1F4FC), (0x1F4FF, 0x1F53D), (0x1F54B, 0x1F54E), (0x1F550, 0x1F567),
    (0x1F57A, 0x1F57A), (0x1F595, 0x1F596), (0x1F5A4, 0x1F5A4), (0x1F5FB, 0x1F64F),
    (0x1F680, 0x1F6C5), (0x1F6CC, 0x1F6CC), (0x1F6D0, 0x1F6D2), (0x1F6D5, 0x1F6D7),
    (0x1F6DD, 0x1F6DF), (0x1F6EB, 0x1F6EC), (0x1F6F4, 0x1F6FC), (0x1F7E0, 0x1F7EB),
    (0x1F7F0, 0x1F7F0), (0x1F90C, 0x1F93A), (0x1F93C, 0x1F945), (0x1F947, 0x1F9FF),
    (0x1FA70, 0x1FAF6), (0x20000, 0x3FFFD)]

def noColumns : List (Nat × Nat) :=
  [(0x300, 0x36F), (0x483, 0x489), (0x591, 0x5BD), (0x610, 0x61A), (0x64B, 0x65F),
    (0x1160, 0x11FF), (0x1AB0, 0x1ACE), (0x1DC0, 0x1DFF), (0x200B, 0x200F), (0x202A, 0x202E),
    (0x2060, 0x2064), (0x2066, 0x206F), (0x20D0, 0x20F0), (0x302A, 0x302D), (0x3099, 0x309A),
    (0xFE00, 0xFE0F), (0xFE20, 0xFE2F), (0xFEFF, 0xFEFF), (0xE0100, 0xE01EF)]

def columnsOf (c : Char) : Nat :=
  let isIn (ranges : List (Nat × Nat)) : Bool :=
    ranges.any fun r => decide (r.1 ≤ c.toNat) && decide (c.toNat ≤ r.2)
  if isIn noColumns then 0 else if isIn doubleColumns then 2 else 1

structure Counts where
  lines : Nat := 0
  words : Nat := 0
  chars : Nat := 0
  bytes : Nat := 0
  longest : Nat := 0

def Counts.add (a b : Counts) : Counts :=
  ⟨a.lines + b.lines, a.words + b.words, a.chars + b.chars, a.bytes + b.bytes,
    max a.longest b.longest⟩

structure Scan where
  words : Nat := 0
  inWord : Bool := false
  column : Nat := 0
  longest : Nat := 0

def isFixedSpace (c : Char) : Bool :=
  [0xA0, 0x2007, 0x202F, 0x2060].contains c.toNat

def Scan.step (s : Scan) (c : Char) : Scan :=
  let s :=
    if c == '\n' || c == '\r' || c == '\x0c' then
      { s with longest := max s.longest s.column, column := 0 }
    else if c == '\t' then { s with column := s.column + 8 - s.column % 8 }
    else if c == ' ' then { s with column := s.column + 1 }
    else if !Regular.isStray c && Wide.isIn "print" c then
      { s with column := s.column + columnsOf c }
    else s
  if Regular.isStray c then s
  else if Wide.isSpace c || isFixedSpace c then { s with inWord := false }
  else if Wide.isIn "print" c then
    { s with words := if s.inWord then s.words else s.words + 1, inWord := true }
  else s

def countsOf (text : Bytes) : Counts :=
  let wide := Regular.wide text
  let scan := wide.foldl Scan.step {}
  { lines := text.countP (· == '\n')
    words := scan.words
    chars := wide.countP fun c => !Regular.isStray c
    bytes := text.length
    longest := max scan.longest scan.column }

def Counts.chosen (c : Counts) (letters : List Char) : List Nat :=
  let all := letters.isEmpty
  (if all || letters.contains 'l' then [c.lines] else []) ++
    (if all || letters.contains 'w' then [c.words] else []) ++
    (if letters.contains 'm' then [c.chars] else []) ++
    (if all || letters.contains 'c' then [c.bytes] else []) ++
    (if letters.contains 'L' then [c.longest] else [])

inductive Extent where
  | missing
  | unknown
  | size (bytes : Nat)
  deriving DecidableEq, Repr

def Extent.of (node? : Option Node) : Extent :=
  match node? with
  | some (.file content) => .size content.length
  | _ => .unknown

def extentOf (path : Bytes) : Run Extent := do
  let m ← get
  if path == ['-'] then
    match ← Run.handle? 0 with
    | some (_, { target := .file file, .. }) =>
      return Extent.of ((m.tree.stored? file).map Item.node)
    | _ => return .unknown
  else
    match m.tree.look m.process.working path true with
    | .ok node => return Extent.of (some node)
    | .error _ => return .missing

/-- The width of the columns. They are as wide as the size of all files, if that is known before
    reading, and wider if something is not a file. -/
def widthFor (extents : List Extent) : Nat :=
  let sizes := extents.filterMap fun e => match e with
    | .size n => some n
    | _ => none
  let digits := (Run.number (total sizes)).length
  if extents.contains .unknown then max digits 7 else digits

def countsFor (path : Bytes) : Run (Option Counts × Bool) := do
  match ← openInput path with
  | .error e =>
    complain (named path ++ ": " ++ e.reason)
    return (none, false)
  | .ok d =>
    match ← Run.receiveAll d with
    | .error e =>
      complain (named path ++ ": " ++ e.reason)
      return (some {}, false)
    | .ok text => return (some (countsOf text), true)

def namesFor (o : Options) : Run (Except Nat (List Bytes × Bool)) := do
  match o.last? 'f', o.rest with
  | none, _ => return .ok (o.rest, false)
  | some _, extra :: _ =>
    complain ("extra operand " ++ inRoundQuotes extra)
    Run.say 2 "file operands cannot be combined with --files0-from\n".toList
    return .error (← hint 1)
  | some list, [] =>
    match ← contentsOf list with
    | .error e =>
      complain ("cannot open " ++ inQuotes list ++ " for reading: " ++ e.reason)
      return .error 1
    | .ok text =>
      let names := text.splitOn '\x00'
      return .ok (if names.getLast? == some [] then names.dropLast else names, true)

def wc (arguments : List Bytes) : Run Nat :=
  let long := [("lines", 'l'), ("words", 'w'), ("chars", 'm'), ("bytes", 'c'),
    ("max-line-length", 'L'), ("files0-from", 'f')]
  withOptions "lwmcLf:" long false 1 arguments fun o => do
    let letters := (o.letters.map (·.1)).filter (· != 'f')
    match ← namesFor o with
    | .error status => return status
    | .ok (names, listed) =>
      let columns := (({} : Counts).chosen letters).length
      let paths := if names.isEmpty && !listed then [['-']] else names
      let extents ← paths.mapM extentOf
      let width := if listed || (paths.length = 1 && columns = 1) then 1 else widthFor extents
      let line (counts : Counts) (name : Bytes) : Bytes :=
        let digits := (counts.chosen letters).map Run.number
        let numbers := [' '].intercalate
          (digits.map (padLeft ' ' width))
        if name.isEmpty then numbers else numbers ++ ' ' :: name
      let (sum, good) ← paths.foldlM
        (fun (sum, good) path => do
          let (counts?, read) ← countsFor path
          match counts? with
          | none => return (sum, false)
          | some counts =>
            emitLine (line counts (if names.isEmpty then [] else path))
            return (Counts.add sum counts, good && read))
        (({} : Counts), true)
      if 1 < paths.length then emitLine (line sum "total".toList)
      return if good then 0 else 1

end Gesture.Shell.Program
