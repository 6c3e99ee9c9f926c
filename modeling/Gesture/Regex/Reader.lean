import Gesture.Regex.Error
import Gesture.Regex.Syntax
import Gesture.Text.Digit
import Gesture.Text.Identifier

namespace Gesture.Regex

inductive Mark where
  | char (c : Char)
  | escape (c : Char)
  | dangling
  deriving DecidableEq, Repr

namespace Mark

def text : Mark → List Char
  | .char c => [c]
  | .escape c => ['\\', c]
  | .dangling => ['\\']

def ofText : List Char → List Mark
  | [] => []
  | ['\\'] => [.dangling]
  | '\\' :: c :: rest => .escape c :: ofText rest
  | c :: rest => .char c :: ofText rest

end Mark

/-- What is known of the groups of an expression: the flags that hold for all of it, the indices of
    named groups, the width of each group that is closed (the first entry is no group), how many
    entries there were where the outermost open lookbehind began, and the groups that conditions
    mention by number, with the first place of each. -/
structure Groups where
  flags : Flags := []
  names : List (List Char × Nat) := []
  widths : List (Option Width) := [none]
  lookbehind : Option Nat := none
  mentioned : List (Nat × Nat) := []

namespace Groups

def width? (g : Groups) (index : Nat) : Option Width :=
  (g.widths[index]?).join

def index? (g : Groups) (name : List Char) : Option Nat :=
  (g.names.find? (·.1 = name)).map (·.2)

def close (g : Groups) (index : Nat) (w : Width) : Groups :=
  { g with widths := g.widths.set index (some w) }

def mention (g : Groups) (index position : Nat) : Groups :=
  if g.mentioned.any (·.1 == index) then g
  else { g with mentioned := g.mentioned ++ [(index, position)] }

end Groups

structure Reader where
  rest : List Mark
  position : Nat
  groups : Groups

abbrev After (r : Reader) := { after : Reader // after.rest.length ≤ r.rest.length }

def Scan (α : Type) := (r : Reader) → Except Error (α × After r)

namespace Scan

protected def pure {α : Type} (a : α) : Scan α :=
  fun r => .ok (a, ⟨r, Nat.le_refl _⟩)

protected def bind {α β : Type} (m : Scan α) (f : α → Scan β) : Scan β :=
  fun r =>
    match m r with
    | .error e => .error e
    | .ok (a, ⟨r₁, h₁⟩) =>
      match f a r₁ with
      | .error e => .error e
      | .ok (b, ⟨r₂, h₂⟩) => .ok (b, ⟨r₂, Nat.le_trans h₂ h₁⟩)

instance : Monad Scan where
  pure := Scan.pure
  bind := Scan.bind

def fail {α : Type} (cause : Cause) (back : Nat) : Scan α :=
  fun r => .error (.invalid cause (some (r.position - back)))

def failAt {α : Type} (cause : Cause) (position : Nat) : Scan α :=
  fun _ => .error (.invalid cause (some position))

def throw {α : Type} (e : Error) : Scan α :=
  fun _ => .error e

def position : Scan Nat :=
  fun r => .ok (r.position, ⟨r, Nat.le_refl _⟩)

def groups : Scan Groups :=
  fun r => .ok (r.groups, ⟨r, Nat.le_refl _⟩)

def setGroups (g : Groups) : Scan Unit :=
  fun r => .ok ((), ⟨{ r with groups := g }, Nat.le_refl _⟩)

def peek : Scan (Option Mark) :=
  fun r => .ok (r.rest.head?, ⟨r, Nat.le_refl _⟩)

end Scan

/-- The next mark and the reader after it. A backslash that escapes nothing is refused as soon as it
    comes next. -/
def Reader.advance? (r : Reader) :
    Except Error (Option (Mark × { after : Reader // after.rest.length < r.rest.length })) :=
  match h : r.rest with
  | [] => .ok none
  | mark :: rest =>
    let position := r.position + mark.text.length
    if rest.head? = some .dangling then .error (.invalid .danglingEscape (some position))
    else .ok (some (mark, ⟨⟨rest, position, r.groups⟩, by simp⟩))

namespace Scan

def next : Scan (Option Mark) :=
  fun r =>
    match r.advance? with
    | .error e => .error e
    | .ok none => .ok (none, ⟨r, Nat.le_refl _⟩)
    | .ok (some (mark, ⟨after, h⟩)) => .ok (some mark, ⟨after, Nat.le_of_lt h⟩)

def accept (c : Char) : Scan Bool := do
  if (← peek) = some (.char c) then
    let _ ← next
    return true
  else return false

def take (p : Char → Bool) : Nat → Scan (List Char)
  | 0 => pure []
  | count + 1 => do
    match ← peek with
    | some (.char c) =>
      if p c then
        let _ ← next
        return c :: (← take p count)
      else return []
    | _ => return []

def takeAll (p : Char → Bool) : Scan (List Char) :=
  fun r => take p r.rest.length r

def nameFrom (terminator : Char) (what : String) (got : List Char) : Nat → Scan (List Char)
  | 0 => fail (.missingName what) 0
  | count + 1 => do
    match ← next with
    | none =>
      if got.isEmpty then fail (.missingName what) 0
      else fail (.unterminatedName terminator) got.length
    | some mark =>
      if mark = .char terminator then
        if got.isEmpty then fail (.missingName what) 1 else return got
      else nameFrom terminator what (got ++ mark.text) count

def name (terminator : Char) (what : String) : Scan (List Char) :=
  fun r => nameFrom terminator what [] (r.rest.length + 1) r

def orStay {α : Type} (m : Scan (Option α)) : Scan (Option α) :=
  fun r =>
    match m r with
    | .ok (none, _) => .ok (none, ⟨r, Nat.le_refl _⟩)
    | found => found

end Scan

end Gesture.Regex
