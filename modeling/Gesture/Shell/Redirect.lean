import Gesture.Shell.Expansion

namespace Gesture.Shell.Redirect

inductive Ready where
  | file (descriptor : Nat) (opening : Opening) (path : Bytes)
  | copy (descriptor source : Nat)
  | close (descriptor : Nat)
  | document (descriptor : Nat) (number : Nat)

variable (e : Engine)

def prepareOne : Redirection → Run Ready
  | .file d opening name => return .file d opening (← Expansion.single e name)
  | .document d number => return .document d number
  | .copy d source => do
    match ← Expansion.single e source with
    | ['-'] => return .close d
    | [c] => if c.isDigit then return .copy d (c.toNat - 0x30) else refuse
    | _ => refuse
where
  refuse : Run Ready :=
    Run.failWith "Syntax error: Bad fd number".toList

def prepare (redirections : List Redirection) : Run (List Ready) :=
  redirections.mapM (prepareOne e)

def reason (opening : Opening) (error : FileError) : String :=
  match error with
  | .missing | .notADirectory => if opening == .read then "No such file" else "Directory nonexistent"
  | error => error.reason

def setDescriptor (d number : Nat) : Run Unit :=
  Run.update fun p => { p with descriptors := Run.bound d number p.descriptors }

def documentHandle (content : Bytes) : Run Nat := do
  let (channel, reader, _) ← Run.newChannel 1
  let p ← Run.process
  Run.modifyChannel channel fun c => { c with ready := [⟨p.now, p.lineage, content⟩] }
  return reader

def applyOne : Ready → Run Bool
  | .file d opening path => do
    match ← Run.openFile opening path with
    | .ok number =>
      setDescriptor d number
      return true
    | .error error =>
      let verb := if opening == .read then "cannot open " else "cannot create "
      Run.complain (verb.toList ++ path ++ ": ".toList ++ (reason opening error).toList)
      return false
  | .copy d source => do
    match (← Run.process).descriptors.lookup source with
    | some number =>
      setDescriptor d number
      return true
    | none =>
      Run.complain (Run.number source ++ ": Bad file descriptor".toList)
      return false
  | .close d => do
    Run.update fun p => { p with descriptors := p.descriptors.filter (·.1 != d) }
    return true
  | .document d number => do
    let word := (← get).documents[number]?.getD []
    try
      let content ← Expansion.document e word
      setDescriptor d (← documentHandle content)
      return true
    catch
      | .failed => return false
      | s => throw s

def apply : List Ready → Run Bool
  | [] => return true
  | r :: rest => do
    if ← applyOne e r then apply rest else return false

/-- Runs something with descriptors directed, and puts them back after it. A failure to direct them
    gives status 2. -/
def within (redirections : List Redirection) (body : Run Nat) : Run Nat := do
  let ready ← prepare e redirections
  let outer := (← Run.process).descriptors
  let status ← if ← apply e ready then body else pure 2
  Run.update fun p => { p with descriptors := outer }
  return status

end Gesture.Shell.Redirect
