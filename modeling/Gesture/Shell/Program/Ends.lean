import Gesture.Shell.Program.Size

namespace Gesture.Shell.Program

def afterLines (ending : Char) : Nat → Bytes → Bytes
  | 0, text => text
  | count + 1, text =>
    match text.dropWhile (· != ending) with
    | [] => []
    | _ :: rest => afterLines ending count rest

def lineTotal (ending : Char) (text : Bytes) : Nat :=
  text.countP (· == ending) + (if text.isEmpty || text.getLast? == some ending then 0 else 1)

structure Extract where
  bytes : Bool
  count : Nat
  opposite : Bool
  ending : Char

def Extract.last (e : Extract) (text : Bytes) : Bytes :=
  match e.bytes, e.opposite with
  | true, true => text.drop (e.count - 1)
  | true, false => text.drop (text.length - e.count)
  | false, true => afterLines e.ending (e.count - 1) text
  | false, false => afterLines e.ending (lineTotal e.ending text - e.count) text

def Extract.sizeBefore (e : Extract) (text : Bytes) : Nat :=
  if e.bytes then text.length - e.count
  else text.length - (afterLines e.ending (lineTotal e.ending text - e.count) text).length

def readUntil (descriptor piece : Nat) (enough : Bytes → Option Nat) :
    Run (Except FileError Bytes) :=
  iterate .stalled
    (fun (before : Bytes) => do
      match enough before with
      | some n =>
        Run.giveBack descriptor (before.length - n)
        return .inr (.ok (before.take n))
      | none =>
        match ← Run.receive descriptor (min piece 65536) with
        | .error e => return .inr (.error e)
        | .ok [] => return .inr (.ok before)
        | .ok bytes => return .inl (before ++ bytes))
    100000 []

def readBytes (descriptor count : Nat) : Run (Except FileError Bytes) :=
  iterate .stalled
    (fun (before, missing) => do
      if missing = 0 then return .inr (.ok before)
      match ← Run.receive descriptor (min missing 65536) with
      | .error e => return .inr (.error e)
      | .ok [] => return .inr (.ok before)
      | .ok bytes => return .inl (before ++ bytes, missing - bytes.length))
    100000 ([], count)

def Extract.first (e : Extract) (descriptor : Nat) : Run (Except FileError Bytes) := do
  if e.opposite then
    match ← Run.receiveAll descriptor with
    | .error error => return .error error
    | .ok text => return .ok (text.take (e.sizeBefore text))
  else if e.bytes then readBytes descriptor e.count
  else
    readUntil descriptor 8192 fun text =>
      if e.count ≤ text.countP (· == e.ending) then
        some (text.length - (afterLines e.ending e.count text).length)
      else none

def writeParts (titles : Bool) (part : Nat → Run (Except FileError Bytes)) (paths : List Bytes) :
    Run Nat := do
  let (status, _) ← paths.foldlM
    (fun (status, first) path => do
      let name := if path == ['-'] then "standard input".toList else path
      match ← openInput path with
      | .error e =>
        complain ("cannot open " ++ inQuotes name ++ " for reading: " ++ e.reason)
        return (1, first)
      | .ok d =>
        if titles then
          emit ((if first then [] else ['\n']) ++ "==> ".toList ++ name ++ " <==\n".toList)
        match ← part d with
        | .ok text =>
          emit text
          return (status, false)
        | .error e =>
          complain ("error reading " ++ inQuotes name ++ ": " ++ e.reason)
          return (1, false))
    ((0 : Nat), true)
  return status

def countLong : List (String × Char) :=
  [("lines", 'n'), ("bytes", 'c'), ("quiet", 'q'), ("silent", 'q'), ("verbose", 'v'),
    ("zero-terminated", 'z')]

def countDigits (value : Bytes) : Bytes :=
  match value with
  | '-' :: rest => rest
  | rest => rest

/-- The last option that gives a count, and whether it counts bytes; or the first one that is wrong. -/
def countOption (o : Options) : Bool × Bytes :=
  let given := (o.letters.filter fun l => l.1 == 'n' || l.1 == 'c').map fun l => (l.1 == 'c', l.2)
  let wrong := given.find? fun g => match Size.ofText byteUnits (countDigits g.2) with
    | .ok _ => false
    | .error _ => true
  (wrong.or given.getLast?).getD (false, "10".toList)

def wantsTitles (o : Options) : Bool :=
  match o.letters.reverse.find? fun l => l.1 == 'q' || l.1 == 'v' with
  | some (letter, _) => letter == 'v'
  | none => decide (1 < o.rest.length)

def countName (bytes : Bool) : String :=
  if bytes then "invalid number of bytes" else "invalid number of lines"

/-- The option for bytes or lines that an old way of writing stands for: its letter, and a unit. -/
def oldFlag (before : Char × Bytes) (flag : Char) : Char × Bytes :=
  if flag == 'c' then ('c', [])
  else if flag == 'b' || flag == 'k' || flag == 'm' then ('c', [flag])
  else if flag == 'l' then ('n', before.2)
  else before

/-- The arguments of `head` with a first argument such as `-5c` in the usual form, or the letter that
    may not come after a number. -/
def headArguments (arguments : List Bytes) : Except Char (List Bytes) :=
  match arguments with
  | ('-' :: c :: more) :: rest =>
    if !c.isDigit then .ok arguments
    else
      let digits := (c :: more).takeWhile Char.isDigit
      let flags := (c :: more).drop digits.length
      match flags.find? fun f => !"bckmlqvz".toList.contains f with
      | some wrong => .error wrong
      | none =>
        let (letter, unit) := flags.foldl oldFlag ('n', [])
        let others := flags.filter fun f => f == 'q' || f == 'v' || f == 'z'
        .ok (others.map (fun f => ['-', f]) ++ ('-' :: letter :: digits ++ unit) :: rest)
  | _ => .ok arguments

def head (arguments : List Bytes) : Run Nat := do
  match headArguments arguments with
  | .error flag => misuse 1 ("invalid trailing option -- " ++ flag.toString)
  | .ok arguments =>
    withOptions ("n:c:qvz" ++ digitLetters) countLong false 1 arguments fun o => do
      match o.letters.find? (·.1.isDigit) with
      | some (digit, _) => misuse 1 ("invalid trailing option -- " ++ digit.toString)
      | none =>
        let (bytes, value) := countOption o
        let opposite := value.head? == some '-'
        sizeFor (countName bytes) byteUnits (countDigits value) fun count => do
          let e : Extract := ⟨bytes, count, opposite, if o.has 'z' then '\x00' else '\n'⟩
          writeParts (wantsTitles o) e.first (if o.rest.isEmpty then [['-']] else o.rest)

def tailOption? (argument : Bytes) : Option (Bytes × Bool) := do
  let (sign, body) ← match argument with
    | '+' :: body => some ('+', body)
    | '-' :: body =>
      if (if body.head? == some 'c' then body.drop 1 else body).isEmpty then none
      else some ('-', body)
    | _ => none
  let digits := body.takeWhile Char.isDigit
  let rest := body.drop digits.length
  let (letter, usual, rest) := match rest with
    | 'b' :: rest => ('c', "10b".toList, rest)
    | 'c' :: rest => ('c', "10".toList, rest)
    | 'l' :: rest => ('n', "10".toList, rest)
    | rest => ('n', "10".toList, rest)
  let follows := rest == ['f']
  if !rest.isEmpty && !follows then none
  else some ('-' :: letter :: sign :: (if digits.isEmpty then usual else digits), follows)

def tailArguments (arguments : List Bytes) : List Bytes :=
  let fits := match arguments with
    | [_] => true
    | [_, ['-', '-']] => true
    | [_, '-' :: _ :: _] => false
    | [_, _] => true
    | [_, ['-', '-'], _] => true
    | _ => false
  match arguments with
  | first :: rest =>
    match if fits then tailOption? first else none with
    | some (option, follows) => option :: (if follows then [['-', 'f']] else []) ++ rest
    | none => arguments
  | [] => []

def tail (arguments : List Bytes) : Run Nat :=
  let long := countLong ++
    [("follow", '\x01'), ("retry", '\x02'), ("pid", '\x03'), ("sleep-interval", 's')]
  withOptions ("n:c:qvfFs:z\x01::\x02\x03:" ++ digitLetters) long false 1 (tailArguments arguments) fun o => do
    match o.letters.find? (·.1.isDigit) with
    | some (digit, _) => refuse 1 ("option used in invalid context -- " ++ digit.toString)
    | none =>
      let (bytes, value) := countOption o
      let fromStart := o.letters.any fun l => (l.1 == 'n' || l.1 == 'c') && l.2.head? == some '+'
      sizeFor (countName bytes) byteUnits (countDigits value) fun count => do
        let follows := o.has 'f' || o.has 'F' || o.has '\x01'
        if count = 0 && !fromStart && !follows then return 0
        let e : Extract := ⟨bytes, count, fromStart, if o.has 'z' then '\x00' else '\n'⟩
        let part (d : Nat) : Run (Except FileError Bytes) := do
          if fromStart then
            match ← Run.receiveKnown d with
            | .error error => return .error error
            | .ok (text, endless) =>
              if endless then Run.update fun p => { p with unfinished := true }
              return .ok (e.last text)
          else
            match ← Run.receiveAll d with
            | .error error => return .error error
            | .ok text => return .ok (e.last text)
        let status ← writeParts (wantsTitles o) part (if o.rest.isEmpty then [['-']] else o.rest)
        if follows && o.rest.any (· != ['-']) then throw .stalled
        return status

end Gesture.Shell.Program
