import Gesture.Shell.Mode
import Gesture.Shell.Program.Date
import Gesture.Shell.Program.Sorting

namespace Gesture.Shell.Program

namespace Listing

structure Entry where
  name : Bytes
  place : Place
  number : Nat
  item : Item
  target : Option Item

def entryOf (t : Tree) (working : Place) (follow : Bool) (name : Bytes) (place : Place) :
    Option Entry := do
  let item ← t.item? place
  let number := (t.number? place).getD 2
  match item.node with
  | .link target =>
    let base := if target.head? == some '/' then working else place.tail
    let other := (t.lookItem base target true).toOption
    match follow, other with
    | true, some other => return ⟨name, place, number, other, none⟩
    | _, other => return ⟨name, place, number, item, other⟩
  | _ => return ⟨name, place, number, item, none⟩

def kindLetter : Node → Char
  | .directory => 'd'
  | .file _ => '-'
  | .link _ => 'l'
  | .device _ => 'c'

def sizeOfNode : Node → Nat
  | .directory => 4096
  | .file content => content.length
  | .link target => target.length
  | .device _ => 0

def blocksOf : Node → Nat
  | .directory => 4
  | .file content => (content.length + 4095) / 4096 * 4
  | _ => 0

def linkCount (t : Tree) (e : Entry) : Nat :=
  match e.item.node with
  | .directory =>
    2 + (t.names e.place).countP fun name => t.node? (name :: e.place) == some .directory
  | _ => t.nameCount e.number

inductive Layout where
  | single
  | long
  | columns
  | across
  | commas
  deriving DecidableEq, Repr

def layoutOf (o : Options) : Layout :=
  o.letters.foldl
    (fun layout (letter, argument) =>
      match letter with
      | 'l' | 'g' | 'n' | 'o' => .long
      | '1' => if layout == .long then .long else .single
      | 'C' => .columns
      | 'x' => .across
      | 'm' => .commas
      | 'Y' =>
        match String.ofList argument with
        | "long" | "verbose" => .long
        | "commas" => .commas
        | "horizontal" | "across" => .across
        | "vertical" => .columns
        | _ => .single
      | _ => layout)
    .single

def isShown (o : Options) (name : Bytes) : Bool :=
  (o.has 'a' || o.has 'A' || o.has 'f' || name.head? != some '.') &&
    !(o.has 'B' && name.getLast? == some '~') &&
    !(o.letters.any fun (letter, pattern) =>
      letter == 'I' && Glob.accepts (Glob.items (pattern.map fun c => (c, false))) name)

def endingOf (name : Bytes) : Bytes :=
  if name.contains '.' then '.' :: (name.reverse.takeWhile (· != '.')).reverse else []

def inOrder (o : Options) (entries : List Entry) : List Entry :=
  let sortBy : Bytes := (o.last? 'Z').getD []
  let wants (letter : Char) (name : String) : Bool := o.has letter || sortBy == name.toList
  let byName (a b : Entry) : Ordering :=
    if a.name == b.name then .eq else if Bytes.isSorted a.name b.name then .lt else .gt
  let compared (a b : Entry) : Ordering :=
    if o.has 'f' || wants 'U' "none" then .eq
    else if wants 't' "time" then (compare b.item.time a.item.time).then (byName a b)
    else if wants 'S' "size" then
      (compare (sizeOfNode b.item.node) (sizeOfNode a.item.node)).then (byName a b)
    else if wants 'X' "extension" then
      let x := endingOf a.name
      let y := endingOf b.name
      if x == y then byName a b else if Bytes.isSorted x y then .lt else .gt
    else if wants 'v' "version" then (Sorting.compareVersions a.name b.name).then (byName a b)
    else byName a b
  let turned := o.has 'r' && !(o.has 'f' || wants 'U' "none")
  let sorted := entries.mergeSort fun a b =>
    let order := compared a b
    (if turned then order.swap else order) != .gt
  if o.has 'D' then
    let isDirectory (e : Entry) : Bool := ((e.target.getD e.item).node == .directory)
    sorted.filter isDirectory ++ sorted.filter fun e => !isDirectory e
  else sorted

def escapedName (quotes : Bool) (name : Bytes) : Bytes :=
  let one (c : Char) : Bytes :=
    match c with
    | '\n' => ['\\', 'n']
    | '\t' => ['\\', 't']
    | '\\' => ['\\', '\\']
    | '"' => if quotes then ['\\', '"'] else ['"']
    | ' ' => if quotes then [' '] else ['\\', ' ']
    | c =>
      if c < ' ' || c == '\x7f' then
        let digits := Nat.toDigits 8 c.toNat
        '\\' :: (List.replicate (3 - digits.length) '0' ++ digits)
      else [c]
  let body := name.flatMap one
  if quotes then ['"'] ++ body ++ ['"'] else body

def signOf (o : Options) (item : Item) : Bytes :=
  match item.node with
  | .directory => if o.has 'F' || o.has 'p' || o.has 'y' then ['/'] else []
  | .link _ => if o.has 'F' || o.has 'y' then ['@'] else []
  | .file _ => if o.has 'F' && item.isExecutable then ['*'] else []
  | .device _ => []

def nameText (o : Options) (name : Bytes) : Bytes :=
  if o.has 'Q' then escapedName true name
  else if o.has 'b' then escapedName false name
  else if o.has 'q' then name.map fun c => if c < ' ' || c == '\x7f' then '?' else c
  else name

def humanSize (base n : Nat) : String :=
  let rec go : Nat → Nat → List Char → Nat → String
    | 0, n, _, _ => toString n
    | limit + 1, whole, units, scale =>
      match units with
      | [] => toString whole
      | u :: more =>
        let scaled := scale * base
        let unit := String.ofList [u]
        /- Sizes are rounded up, and have a point below ten. -/
        let tenths := (10 * n + scaled - 1) / scaled
        let ones := (n + scaled - 1) / scaled
        if n < base then toString n
        else if tenths < 100 then toString (tenths / 10) ++ "." ++ toString (tenths % 10) ++ unit
        else if ones < base then toString ones ++ unit
        else go limit whole more scaled
  go 8 n (if base = 1000 then "kMGTPEZY".toList else "KMGTPEZY".toList) 1

def sizeText (o : Options) (n : Nat) : String :=
  if o.has 'h' then humanSize 1024 n else if o.has 'E' then humanSize 1000 n else toString n

def blocksText (o : Options) (blocks : Nat) : String :=
  if o.has 'h' then humanSize 1024 (blocks * 1024)
  else if o.has 'E' then humanSize 1000 (blocks * 1024)
  else toString blocks

def cellText (width : Nat) (text : String) : String :=
  String.ofList (padLeft ' ' width text.toList)

def timeText (o : Options) (time : Int) : Bytes :=
  let m := Date.inZone ("UTC", 0) (Date.startOfScripts * 1000000000 + time * 1000)
  let style := (o.last? 'T').getD []
  let format :=
    if o.has 'e' || style == "full-iso".toList then "%Y-%m-%d %H:%M:%S.%N %z".toList
    else if style == "long-iso".toList then "%Y-%m-%d %H:%M".toList
    else if style == "iso".toList then "%m-%d %H:%M".toList
    else if style.head? == some '+' then style.tail
    else "%b %e %H:%M".toList
  Date.formatted m format

def longLines (o : Options) (t : Tree) (entries : List Entry) : Bytes :=
  let links := entries.map fun e => toString (linkCount t e)
  let sizes := entries.map fun e => match e.item.node with
    | .device _ => "1, 3"
    | node => sizeText o (sizeOfNode node)
  let blocks := entries.map fun e => blocksText o (blocksOf e.item.node)
  let numbers := entries.map fun e => toString e.number
  let widest (texts : List String) : Nat := (texts.map (·.length)).foldl max 0
  let user := if o.has 'n' then "0" else "root"
  (entries.zipIdx).flatMap fun (e, i) =>
    let mode := String.ofList (kindLetter e.item.node :: Mode.shown e.item.mode)
    let cell (texts : List String) : String := cellText (widest texts) (texts.getD i "")
    let front := (if o.has 'i' then [cell numbers] else []) ++ (if o.has 's' then [cell blocks] else []) ++
      [mode, cell links] ++ (if o.has 'g' then [] else [user]) ++
      (if o.has 'o' || o.has 'G' then [] else [user]) ++ [cell sizes]
    let name := nameText o e.name
    let shownName := match e.item.node with
      | .link target => name ++ " -> ".toList ++ nameText o target ++
          (match e.target with
            | some item => signOf o item
            | none => [])
      | _ => name ++ signOf o e.item
    (" ".intercalate front).toList ++ ' ' :: timeText o e.item.time ++ ' ' :: shownName ++ ['\n']

def indent : Nat → Nat → Nat → Bytes
  | 0, _, _ => []
  | limit + 1, start, target =>
    if target ≤ start then []
    else if (start + 1) / 8 < target / 8 then '\t' :: indent limit (start + (8 - start % 8)) target
    else ' ' :: indent limit (start + 1) target

/-- The widths of columns if so many names are in each of them, or in each line if they go across. -/
def columnWidths (across : Bool) (widths : List Nat) (columns : Nat) : List Nat :=
  let count := widths.length
  let rows := (count + columns - 1) / columns
  (List.range columns).map fun column =>
    let inside := widths.zipIdx.filter fun (_, i) =>
      (if across then i % columns else i / rows) == column
    let longest := (inside.map (·.1)).foldl max 0
    if column + 1 = columns then longest else if inside.isEmpty then 3 else longest + 2

def inColumns (across : Bool) (lineWidth : Nat) (names : List Bytes) : Bytes :=
  let widths := names.map fun name => (Regular.wide name).length
  let count := names.length
  let fits (columns : Nat) : Bool :=
    decide (total (columnWidths across widths columns) < lineWidth)
  let columns := ((List.range (min count (lineWidth / 3))).reverse.map (· + 1)).find? fits |>.getD 1
  let rows := (count + columns - 1) / columns
  let widthOf := columnWidths across widths columns
  (List.range rows).flatMap fun row =>
    let cells := (List.range columns).filterMap fun column =>
      let i := if across then row * columns + column else column * rows + row
      names[i]?.map fun name => (name, widths.getD i 0, widthOf.getD column 0)
    let last := cells.length - 1
    let line := cells.zipIdx.foldl
      (fun (text, position) ((name, width, room), i) =>
        if i = last then (text ++ name, position)
        else (text ++ name ++ indent room (position + width) (position + room), position + room))
      (([] : Bytes), 0)
    line.1 ++ ['\n']

def withCommas (lineWidth : Nat) (names : List Bytes) : Bytes :=
  let step (s : Bytes × Nat × Bool) (name : Bytes) : Bytes × Nat × Bool :=
    let (text, position, first) := s
    let width := (Regular.wide name).length
    if first then (text ++ name, position + width, false)
    else if lineWidth = 0 || position + width + 2 < lineWidth then
      (text ++ [',', ' '] ++ name, position + width + 2, false)
    else (text ++ [',', '\n'] ++ name, width, false)
  (names.foldl step ([], 0, true)).1 ++ (if names.isEmpty then [] else ['\n'])

def layout (o : Options) (t : Tree) (entries : List Entry) : Bytes :=
  let numbers := entries.map fun e => toString e.number
  let blocks := entries.map fun e => blocksText o (blocksOf e.item.node)
  let widest (texts : List String) : Nat := (texts.map (·.length)).foldl max 0
  let names := entries.zipIdx.map fun (e, i) =>
    let cell (texts : List String) : Bytes := (cellText (widest texts) (texts.getD i "")).toList ++ [' ']
    (if o.has 'i' then cell numbers else []) ++ (if o.has 's' then cell blocks else []) ++
      nameText o e.name ++ signOf o e.item
  let width := (((o.last? 'w').filter (!·.isEmpty)).map Text.decimalValue).getD 80
  match layoutOf o with
  | .long => longLines o t entries
  | .single => names.flatMap (· ++ [if o.has '0' then '\x00' else '\n'])
  | .columns => inColumns false width names
  | .across => inColumns true width names
  | .commas => withCommas width names

def contents (o : Options) (t : Tree) (place : Place) : Bytes :=
  let found := (t.names place).filterMap fun name =>
    if isShown o name then entryOf t place (o.has 'L') name (name :: place) else none
  let dots := if o.has 'a' || o.has 'f' then
      [entryOf t place false ['.'] place, entryOf t place false ['.', '.'] place.tail].filterMap id
    else []
  let entries := inOrder o (dots ++ found)
  let blocks := (entries.map fun e => blocksOf e.item.node).foldl (· + ·) 0
  let sum := if layoutOf o == .long || o.has 's' then
      ("total " ++ blocksText o blocks ++ "\n").toList
    else []
  sum ++ layout o t entries

/-- A directory and, if that is asked for, those below it, each with its path; `limit` bounds how
    deep they are. -/
def below (o : Options) (t : Tree) : Nat → Bytes → Place → List (Bytes × Place)
  | 0, path, place => [(path, place)]
  | limit + 1, path, place =>
    let inner := inOrder o ((t.names place).filterMap fun name =>
      if isShown o name && t.node? (name :: place) == some .directory then
        entryOf t place false name (name :: place)
      else none)
    (path, place) ::
      inner.flatMap fun e =>
        let start := if path.getLast? == some '/' then path else path ++ ['/']
        below o t limit (start ++ e.name) (e.name :: place)

end Listing

open Listing in
def ls (arguments : List Bytes) : Run Nat :=
  let long := [("all", 'a'), ("almost-all", 'A'), ("directory", 'd'), ("reverse", 'r'),
    ("recursive", 'R'), ("classify", 'F'), ("inode", 'i'), ("size", 's'), ("quote-name", 'Q'),
    ("escape", 'b'), ("literal", 'N'), ("numeric-uid-gid", 'n'), ("no-group", 'G'),
    ("human-readable", 'h'), ("si", 'E'), ("dereference", 'L'), ("file-type", 'y'), ("format", 'Y'),
    ("sort", 'Z'), ("time", 'k'), ("time-style", 'T'), ("full-time", 'e'), ("width", 'w'),
    ("group-directories-first", 'D'), ("ignore-backups", 'B'), ("ignore", 'I'), ("hide", 'I'),
    ("color", 'K'), ("zero", '0'), ("hide-control-chars", 'q'), ("show-control-chars", 'z')]
  withOptions "aAbBcCdfF::gGhHiI:lLmnNopqQrRsStuUvw:xX1Z:Y:T:K::k:" long false 2 arguments
      fun o => do
    let o : Options := if o.has 'e' then { o with letters := o.letters ++ [('l', [])] } else o
    let m ← get
    let working := m.process.working
    let follow := !(o.has 'd' || o.has 'F' || layoutOf o == .long) || o.has 'L' || o.has 'H'
    let given := if o.rest.isEmpty then [['.']] else o.rest
    let found ← given.mapM fun path => do
      match m.tree.find working path false with
      | .error e =>
        complain ("cannot access " ++ inQuotes path ++ ": " ++ e.reason)
        return none
      | .ok place =>
        match entryOf m.tree working follow path place with
        | some e =>
          let place := if follow then (m.tree.find working path true).toOption.getD place else place
          return some { e with place }
        | none =>
          complain ("cannot access " ++ inQuotes path ++ ": " ++ FileError.missing.reason)
          return none
    let entries := inOrder o (found.filterMap id)
    let isListed (e : Entry) : Bool := e.item.node == .directory && !o.has 'd'
    let files := entries.filter fun e => !isListed e
    let shownFiles := layout o m.tree files
    let all := (entries.filter isListed).flatMap fun e =>
      if o.has 'R' then below o m.tree 100 e.name e.place else [(e.name, e.place)]
    let titled := 1 < given.length || o.has 'R'
    let sections := all.map fun (path, place) =>
      (if titled then path ++ [':', '\n'] else []) ++ contents o m.tree place
    let blocks := (if files.isEmpty then [] else [shownFiles]) ++ sections
    emit (['\n'].intercalate blocks)
    return if (found.filterMap id).length < given.length then 2 else 0

end Gesture.Shell.Program
