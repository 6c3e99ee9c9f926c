import Gesture.Action.Table
import Gesture.Proofs.Derivation
import Mathlib.Data.List.Forall2

namespace Gesture

namespace Text

def OneLine (line : List Char) : Prop :=
  ∀ c ∈ line, isLineEnd c = false

instance (line : List Char) : Decidable (OneLine line) :=
  List.decidableBAll (isLineEnd · = false) line

theorem linesAfter_nil (current : List Char) :
    linesAfter current [] = if current.isEmpty then [] else [current.reverse] :=
  rfl

theorem linesAfter_cons {c : Char} (other : c ≠ '\r') (current rest : List Char) :
    linesAfter current (c :: rest) =
      if isLineEnd c then current.reverse :: linesAfter [] rest else linesAfter (c :: current) rest := by
  rw [linesAfter]
  exact fun _ same => absurd same other

theorem linesAfter_append {line : List Char} (clean : OneLine line) (current rest : List Char) :
    linesAfter current (line ++ rest) = linesAfter (line.reverse ++ current) rest := by
  induction line generalizing current with
  | nil => rfl
  | cons c line ih =>
    obtain ⟨open_, later⟩ := List.forall_mem_cons.mp clean
    -- A carriage return would end the line, with or without a line feed after it.
    have other : c ≠ '\r' := by
      rintro rfl
      exact absurd open_ (by decide)
    rw [List.cons_append, linesAfter_cons other, open_, if_neg Bool.false_ne_true, ih later,
      List.reverse_cons, List.append_assoc]
    rfl

theorem lines_of_oneLine {line : List Char} (clean : OneLine line) :
    lines line = if line = [] then [] else [line] := by
  have all := linesAfter_append clean [] []
  rw [List.append_nil, List.append_nil] at all
  rw [lines, all, linesAfter_nil]
  cases line <;> simp

theorem lines_append {line : List Char} (clean : OneLine line) (rest : List Char) :
    lines (line ++ '\n' :: rest) = line :: lines rest := by
  have ends : isLineEnd '\n' = true := by decide
  rw [lines, linesAfter_append clean, List.append_nil, linesAfter_cons (by decide), ends, if_pos rfl,
    List.reverse_reverse]
  rfl

end Text

theorem Grammar.parse_shortName (b : Button) :
    Grammar.parse b.shortName = .ok [b.token .press, b.token .release] := by
  have lower : Text.lower b.shortName.toList = b.shortName.toList ++ [] := by cases b <;> decide +kernel
  rw [Grammar.parse_eq_ok_iff, lower]
  exact .click b .nil ⟨by simp, by simp, by simp⟩

section

variable {α : Type} {pass stop : α → Prop}

/-- Whether there is something in a list that stops, and all that comes before it can be passed. -/
def Reaches (pass stop : α → Prop) (l : List α) : Prop :=
  ∃ before x after, l = before ++ x :: after ∧ (∀ y ∈ before, pass y) ∧ stop x

theorem reaches_nil : ¬Reaches pass stop [] := by
  rintro ⟨before, x, after, same, _⟩
  simp at same

theorem reaches_cons {x : α} {l : List α} : Reaches pass stop (x :: l) ↔ stop x ∨ pass x ∧ Reaches pass stop l := by
  constructor
  · rintro ⟨before, y, after, same, passed, stops⟩
    cases before with
    | nil =>
      cases same
      exact .inl stops
    | cons first before =>
      cases same
      obtain ⟨here, later⟩ := List.forall_mem_cons.mp passed
      exact .inr ⟨here, before, y, after, rfl, later, stops⟩
  · rintro (stops | ⟨here, before, y, after, rfl, passed, stops⟩)
    · exact ⟨[], x, l, rfl, fun _ member => absurd member List.not_mem_nil, stops⟩
    · exact ⟨x :: before, y, after, rfl, List.forall_mem_cons.mpr ⟨here, passed⟩, stops⟩

end

theorem exists_of_forall₂ {α β : Type} {relates : α → β → Prop} {left : List α} {right : List β}
    (related : List.Forall₂ relates left right) {b : β} (member : b ∈ right) : ∃ a ∈ left, relates a b := by
  induction related with
  | nil => cases member
  | @cons first second _ _ here _ ih =>
    rcases List.mem_cons.mp member with rfl | later
    · exact ⟨first, List.mem_cons_self, here⟩
    · obtain ⟨a, among, holds⟩ := ih later
      exact ⟨a, List.mem_cons_of_mem first among, holds⟩

namespace Action

theorem parseLines_nil (number : Nat) : parseLines number [] = .ok [] :=
  rfl

theorem parseLines_cons (number : Nat) (line : List Char) (rest : List (List Char)) :
    parseLines number (line :: rest) =
      if (Text.strip line).isEmpty || (Text.strip line).head? = some '#' then parseLines (number + 1) rest
      else
        match parseLine (String.ofList (Text.strip line)) with
        | .error (.refused r) => .error (.refused (.atLine number r))
        | .error (.beyond l) => .error (.beyond l)
        | .ok action => (parseLines (number + 1) rest).map (action :: ·) :=
  rfl

theorem parseLines_of_none {line : List Char} (nothing : body? line = none) (number : Nat)
    (rest : List (List Char)) : parseLines number (line :: rest) = parseLines (number + 1) rest := by
  simp only [body?, ite_eq_left_iff, reduceCtorEq, imp_false, Decidable.not_not] at nothing
  rw [parseLines_cons, if_pos nothing]

theorem parseLines_of_some {line : List Char} {body : String} (asks : body? line = some body)
    (number : Nat) (rest : List (List Char)) :
    parseLines number (line :: rest) =
      match parseLine body with
      | .error (.refused r) => .error (.refused (.atLine number r))
      | .error (.beyond l) => .error (.beyond l)
      | .ok action => (parseLines (number + 1) rest).map (action :: ·) := by
  simp only [body?, ite_eq_iff, reduceCtorEq, and_false, false_or, Option.some.injEq] at asks
  obtain ⟨taken, rfl⟩ := asks
  rw [parseLines_cons]
  exact if_neg taken

theorem parseLines_eq_ok {number : Nat} {lines : List (List Char)} {actions : List Action} :
    parseLines number lines = .ok actions ↔
      List.Forall₂ (fun body a => parseLine body = .ok a) (lines.filterMap body?) actions := by
  induction lines generalizing number actions with
  | nil => simp [parseLines_nil, eq_comm]
  | cons line rest ih =>
    cases asks : body? line with
    | none => rw [parseLines_of_none asks, List.filterMap_cons_none asks, ih]
    | some body =>
      rw [parseLines_of_some asks, List.filterMap_cons_some asks, List.forall₂_cons_left_iff]
      cases read : parseLine body with
      | error e => cases e <;> simp
      | ok a =>
        constructor
        · intro ok
          obtain ⟨more, later, rfl⟩ := map_eq_ok ok
          exact ⟨a, more, rfl, ih.mp later, rfl⟩
        · rintro ⟨_, more, same, later, rfl⟩
          cases same
          simp only [ih.mpr later, Except.map]

theorem parseLines_eq_beyond {number : Nat} {lines : List (List Char)} {limit : Limit} :
    parseLines number lines = .error (.beyond limit) ↔
      Reaches (fun body => ∃ a, parseLine body = .ok a)
        (fun body => parseLine body = .error (.beyond limit)) (lines.filterMap body?) := by
  induction lines generalizing number with
  | nil => simp [parseLines_nil, reaches_nil]
  | cons line rest ih =>
    cases asks : body? line with
    | none => rw [parseLines_of_none asks, List.filterMap_cons_none asks, ih]
    | some body =>
      rw [parseLines_of_some asks, List.filterMap_cons_some asks, reaches_cons, ← @ih (number + 1)]
      cases read : parseLine body with
      | error e => cases e <;> simp
      | ok a => simp [map_eq_error]

theorem compile_eq_ok {config : String} {table : List Action} :
    compile config = .ok table ↔ ∃ actions,
      List.Forall₂ (fun body a => parseLine body = .ok a)
        ((Text.lines config.toList).filterMap body?) actions ∧
      actions.mergeSort ranksBefore = table := by
  constructor
  · intro ok
    obtain ⟨actions, read, same⟩ := map_eq_ok ok
    exact ⟨actions, parseLines_eq_ok.mp read, same⟩
  · rintro ⟨actions, asked, rfl⟩
    rw [compile, parseLines_eq_ok.mpr asked]
    rfl

theorem bodies_of_joined {lines : List String} (clean : ∀ line ∈ lines, Text.OneLine line.toList) :
    (Text.lines ("\n".intercalate lines).toList).filterMap body? =
      lines.filterMap (fun line => body? line.toList) := by
  induction lines with
  | nil => rfl
  | cons line rest ih =>
    obtain ⟨first, later⟩ := List.forall_mem_cons.mp clean
    cases rest with
    | nil =>
      have alone : ("\n".intercalate [line]).toList = line.toList := by simp
      rw [alone, Text.lines_of_oneLine first]
      split
      · rename_i empty
        simp only [empty, List.filterMap_cons, List.filterMap_nil]
        rfl
      · simp only [List.filterMap_cons, List.filterMap_nil]
    | cons next rest =>
      have joined : ("\n".intercalate (line :: next :: rest)).toList =
          line.toList ++ '\n' :: ("\n".intercalate (next :: rest)).toList := by
        rw [String.intercalate_cons_cons]
        simp
      rw [joined, Text.lines_append first, List.filterMap_cons, ih later]
      rfl

theorem compile_of_bodies {config : String} {bodies : List String} {actions : List Action}
    (same : (Text.lines config.toList).filterMap body? = bodies)
    (read : List.Forall₂ (fun body a => parseLine body = .ok a) bodies actions) :
    compile config = .ok (actions.mergeSort ranksBefore) :=
  compile_eq_ok.mpr ⟨actions, same ▸ read, rfl⟩

theorem ofParts_eq (parts : Parts) :
    ofParts parts =
      match Kind.parse parts.action, Grammar.parse parts.pattern with
      | .error e, _ => .error e
      | .ok _, .error e => .error (.refused (.badPattern parts.pattern e))
      | .ok _, .ok [] => .error (.refused .emptyPattern)
      | .ok kind, .ok (t :: tokens) => (Condition.parse parts.condition).map fun condition =>
          ⟨parts.action, kind, t :: tokens, condition,
            String.ofList (Text.strip parts.condition.toList)⟩ := by
  unfold ofParts
  generalize Kind.parse parts.action = ofKind
  generalize Grammar.parse parts.pattern = ofPattern
  generalize Condition.parse parts.condition = ofCondition
  rcases ofKind with e | kind
  · rfl
  · rcases ofPattern with e | _ | ⟨t, tokens⟩
    · rfl
    · rfl
    · cases ofCondition <;> rfl

theorem ofParts_click (b : Button) {text conditionText : String} {kind : Kind} {condition : Condition}
    (ofKind : Kind.parse text = .ok kind) (ofCondition : Condition.parse conditionText = .ok condition)
    (stripped : Text.strip conditionText.toList = conditionText.toList) :
    ofParts ⟨text, b.shortName, conditionText⟩ =
      .ok ⟨text, kind, [b.token .press, b.token .release], condition, conditionText⟩ := by
  rw [ofParts_eq]
  simp only [ofKind, Grammar.parse_shortName, ofCondition, stripped, Except.map, String.ofList_toList]

end Action

end Gesture
