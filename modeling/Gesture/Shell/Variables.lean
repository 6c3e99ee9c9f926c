import Gesture.Shell.Stream

namespace Gesture.Shell.Run

def text (s : String) : Bytes := s.toList

def number (n : Nat) : Bytes := (toString n).toList

def say (descriptor : Nat) (bytes : Bytes) : Run Unit := do
  let _ ← write descriptor bytes

def complain (message : Bytes) : Run Unit := do
  let p ← process
  let about := match p.builtin with
    | some name => name ++ text ": "
    | none => []
  say 2 (p.name ++ text ": " ++ number p.line ++ text ": " ++ about ++ message ++ ['\n'])

def failWith {α : Type} (message : Bytes) : Run α := do
  complain message
  setStatus 2
  throw .failed

def bindingOf? (name : Bytes) : Run (Option Variable) := do
  return (← process).bindings.lookup name

def value? (name : Bytes) : Run (Option Bytes) := do
  return ((← process).bindings.lookup name).bind (·.value)

def valueOf (p : Process) (name : String) : Option Bytes :=
  (p.bindings.lookup name.toList).bind (·.value)

def bound {κ α : Type} [BEq κ] (name : κ) (a : α) : List (κ × α) → List (κ × α)
  | [] => [(name, a)]
  | (n, b) :: rest => if n == name then (name, a) :: rest else (n, b) :: bound name a rest

def setVariable (name : Bytes) (v : Variable) : Run Unit :=
  update fun p => { p with bindings := bound name v p.bindings }

def assign (name value : Bytes) (exported : Bool) : Run Unit := do
  let p ← process
  let old := (p.bindings.lookup name).getD { value := none }
  if old.fixed then failWith (name ++ text ": is read only")
  setVariable name
    { old with value := some value, exported := old.exported || exported || p.options.contains 'a' }
  if name == text "OPTIND" then
    let n := Text.decimalValue value
    let isNumber := !value.isEmpty && value.all Char.isDigit
    update fun p =>
      { p with optionNumber := if isNumber then max n 1 else 1, optionOffset := none }

def unset (name : Bytes) : Run Unit := do
  match ← bindingOf? name with
  | none => pure ()
  | some v =>
    if v.fixed then failWith (name ++ text ": is read only")
    update fun p => { p with bindings := p.bindings.filter (·.1 != name) }

def hide (name : Bytes) : Run Unit :=
  update fun p =>
    match p.hidden with
    | frame :: outer =>
      { p with hidden := ((name, p.bindings.lookup name) :: frame) :: outer }
    | [] => p

def pushHidden : Run Unit :=
  update fun p => { p with hidden := [] :: p.hidden, hiddenOptions := none :: p.hiddenOptions }

def restored (bindings : List (Bytes × Variable)) (frame : List (Bytes × Option Variable)) :
    List (Bytes × Variable) :=
  frame.foldl
    (fun vs (name, old) =>
      match old with
      | some v => bound name v vs
      | none => vs.filter (·.1 != name))
    bindings

def popHiddenTo (depth : Nat) : Run Unit :=
  update fun p =>
    let dropped := p.hidden.length - depth
    { p with
      bindings := (p.hidden.take dropped).foldl restored p.bindings
      hidden := p.hidden.drop dropped
      options := ((p.hiddenOptions.take dropped).foldl (fun o old => old.or o) none).getD p.options
      hiddenOptions := p.hiddenOptions.drop dropped }

end Gesture.Shell.Run
