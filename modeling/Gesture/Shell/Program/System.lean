import Gesture.Shell.Program.Entry

namespace Gesture.Shell.Program

def tells (line : String) (arguments : List Bytes) : Run Nat :=
  withOptions "" [] false 1 arguments fun o => do
    match o.rest with
    | extra :: _ => misuse 1 ("extra operand " ++ inRoundQuotes extra)
    | [] =>
      emitLine line.toList
      return 0

def identity (arguments : List Bytes) : Run Nat :=
  let long := [("user", 'u'), ("group", 'g'), ("groups", 'G'), ("name", 'n'), ("real", 'r'),
    ("zero", 'z')]
  withOptions "ugGnrza" long false 1 arguments fun o => do
    let single := ['u', 'g', 'G'].countP o.has
    match o.rest with
    | user :: _ =>
      if user != "root".toList && user != ['0'] then
        refuse 1 (inRoundQuotes user ++ ": no such user")
      else
        emitLine (if single = 0 then "uid=0(root) gid=0(root) groups=0(root)".toList
          else if o.has 'n' then "root".toList else ['0'])
        return 0
    | [] =>
      if 1 < single then refuse 1 "cannot print \"only\" of more than one choice"
      else if single = 0 && (o.has 'n' || o.has 'r') then
        refuse 1 "cannot print only names or real IDs in default format"
      else
        emitLine (if single = 0 then "uid=0(root) gid=0(root) groups=0(root)".toList
          else if o.has 'n' then "root".toList else ['0'])
        return 0

def groups (arguments : List Bytes) : Run Nat := do
  if arguments.isEmpty then emitLine "root".toList
  else
    arguments.forM fun name => emitLine (name ++ " : root".toList)
  return 0

def uname (arguments : List Bytes) : Run Nat :=
  let long := [("all", 'a'), ("kernel-name", 's'), ("nodename", 'n'), ("kernel-release", 'r'),
    ("kernel-version", 'v'), ("machine", 'm'), ("operating-system", 'o')]
  withOptions "asnrvmpio" long false 1 arguments fun o => do
    match o.rest with
    | extra :: _ => misuse 1 ("extra operand " ++ inRoundQuotes extra)
    | [] =>
      let wants (c : Char) : Bool := o.has c || o.has 'a'
      let words := (if o.letters.isEmpty || wants 's' then ["Linux"] else []) ++
        (if wants 'n' then ["localhost"] else []) ++ (if wants 'r' then ["6.1.0"] else []) ++
        (if wants 'v' then ["#1 SMP"] else []) ++ (if wants 'm' then ["x86_64"] else []) ++
        (if o.has 'p' then ["unknown"] else []) ++ (if o.has 'i' then ["unknown"] else []) ++
        (if wants 'o' then ["GNU/Linux"] else [])
      emitLine (" ".intercalate words).toList
      return 0

def tty (arguments : List Bytes) : Run Nat :=
  withOptions "s" [("silent", 's'), ("quiet", 's')] false 2 arguments fun o => do
    if !o.has 's' then emitLine "not a tty".toList
    return 1

def logname (_ : List Bytes) : Run Nat :=
  refuse 1 "no login name"

def terminalSettings (_ : List Bytes) : Run Nat :=
  refuse 1 "'standard input': Inappropriate ioctl for device"

def pwd (arguments : List Bytes) : Run Nat :=
  withOptions "LP" [("logical", 'L'), ("physical", 'P')] false 1 arguments fun _ => do
    emitLine (← Run.process).working.path
    return 0

def which (arguments : List Bytes) : Run Nat := do
  let (flags, names) := arguments.span fun a => a.head? == some '-' && 1 < a.length
  let all := flags.any (·.contains 'a')
  let m ← get
  let isProgram (full : Bytes) : Bool :=
    match m.tree.lookItem m.process.working full true with
    | .ok item => item.isExecutable && item.node != .directory
    | _ => false
  names.foldlM
    (fun status name => do
      let candidates := if name.contains '/' then [name]
        else Lookup.candidates (Lookup.searchPath m) name
      let found := candidates.filter isProgram
      (if all then found else found.take 1).forM emitLine
      return if found.isEmpty then 1 else status)
    (if names.isEmpty then 1 else 0)

/-- The prime factors of a number from a candidate on, smallest first; `limit` bounds the tries. -/
def factorsFrom : Nat → Nat → Nat → List Nat
  | 0, _, n => if 1 < n then [n] else []
  | limit + 1, candidate, n =>
    if n ≤ 1 then []
    else if n < candidate * candidate then [n]
    else if n % candidate = 0 then candidate :: factorsFrom limit candidate (n / candidate)
    else factorsFrom limit (candidate + (if candidate = 2 then 1 else 2)) n

def factor (arguments : List Bytes) : Run Nat := do
  let numbers ←
    if arguments.isEmpty then
      match ← Run.receiveAll 0 with
      | .ok text => pure ((text.splitOnP Number.isBlank).filter (!·.isEmpty))
      | .error _ => pure []
    else pure arguments
  let isNumber (text : Bytes) : Bool := !text.isEmpty && text.all Char.isDigit
  let lines := (numbers.filter isNumber).map fun text =>
    let n := Text.decimalValue text
    Run.number n ++ [':'] ++ (factorsFrom 2000000 2 n).flatMap fun p => ' ' :: Run.number p
  let status ← forEachArgument numbers fun text => do
    return if isNumber text then none
      else some (inRoundQuotes text ++ " is not a valid positive integer")
  lines.forM emitLine
  return status

end Gesture.Shell.Program
