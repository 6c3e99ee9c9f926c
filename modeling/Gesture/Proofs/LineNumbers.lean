import Gesture.Proofs.LineOrder

namespace Gesture

namespace Text

/-- The lines of a text: each but the last one is closed by a line end, which is a carriage return with a line
    feed or a single character. The last one may be open if there is something in it. -/
inductive LinesOf : List Char → List (List Char) → Prop
  | none : LinesOf [] []
  | unended {line : List Char} (clean : OneLine line) (some : line ≠ []) : LinesOf line [line]
  | ended {line rest : List Char} {lines : List (List Char)} {c : Char} (clean : OneLine line)
      (ends : isLineEnd c = true) (alone : c = '\r' → rest.head? ≠ some '\n') (next : LinesOf rest lines) :
      LinesOf (line ++ c :: rest) (line :: lines)
  | pair {line rest : List Char} {lines : List (List Char)} (clean : OneLine line)
      (next : LinesOf rest lines) : LinesOf (line ++ '\r' :: '\n' :: rest) (line :: lines)

theorem linesAfter_pair (current rest : List Char) :
    linesAfter current ('\r' :: '\n' :: rest) = current.reverse :: linesAfter [] rest := by
  rw [linesAfter]

theorem linesAfter_ended {c : Char} {rest : List Char} (ends : isLineEnd c = true)
    (alone : c = '\r' → rest.head? ≠ some '\n') (current : List Char) :
    linesAfter current (c :: rest) = current.reverse :: linesAfter [] rest := by
  rw [linesAfter, if_pos ends]
  rintro more rfl rfl
  exact alone rfl rfl

theorem lines_of_linesOf {text : List Char} {lines : List (List Char)} (parted : LinesOf text lines) :
    Text.lines text = lines := by
  induction parted with
  | none => rfl
  | unended clean some => rw [lines_of_oneLine clean, if_neg some]
  | ended clean ends alone _ ih =>
    rw [Text.lines, linesAfter_append clean, linesAfter_ended ends alone, List.append_nil,
      List.reverse_reverse]
    exact congrArg _ ih
  | pair clean _ ih =>
    rw [Text.lines, linesAfter_append clean, linesAfter_pair, List.append_nil, List.reverse_reverse]
    exact congrArg _ ih

theorem linesOf_linesAfter {current : List Char} (clean : OneLine current.reverse) (text : List Char) :
    LinesOf (current.reverse ++ text) (linesAfter current text) := by
  have nothing : OneLine [] := fun _ member => absurd member List.not_mem_nil
  fun_induction linesAfter current text with
  | case1 current empty =>
    rw [List.isEmpty_iff.mp empty]
    exact .none
  | case2 current some =>
    rw [List.append_nil]
    exact .unended clean (by simpa using some)
  | case3 current rest ih => exact .pair clean (ih nothing)
  | case4 current c rest other ends ih =>
    refine .ended clean ends ?_ (ih nothing)
    rintro rfl feeds
    obtain ⟨more, rfl⟩ := List.head?_eq_some_iff.mp feeds
    exact other more rfl rfl
  | case5 current c rest _ open_ ih =>
    have longer : OneLine (c :: current).reverse := by
      rw [List.reverse_cons]
      exact List.forall_mem_append.mpr ⟨clean, List.forall_mem_singleton.mpr (by simpa using open_)⟩
    simpa using ih longer

theorem lines_eq_iff {text : List Char} {lines : List (List Char)} :
    Text.lines text = lines ↔ LinesOf text lines := by
  refine ⟨?_, lines_of_linesOf⟩
  rintro rfl
  have nothing : OneLine ([] : List Char).reverse := fun _ member => absurd member List.not_mem_nil
  exact linesOf_linesAfter nothing text

end Text

theorem reaches_zipIdx {α : Type} {pass : α → Prop} (stop : α → Nat → Prop) {l : List α} {number : Nat} :
    Reaches (fun x => pass x.1) (fun x => stop x.1 x.2) (l.zipIdx number) ↔
      ∃ before x after, l = before ++ x :: after ∧ (∀ y ∈ before, pass y) ∧
        stop x (number + before.length) := by
  induction l generalizing number with
  | nil => simp [reaches_nil]
  | cons first l ih =>
    rw [List.zipIdx_cons, reaches_cons, ih]
    constructor
    · rintro (stops | ⟨passes, before, x, after, rfl, passed, stops⟩)
      · exact ⟨[], first, l, rfl, fun _ member => absurd member List.not_mem_nil, stops⟩
      · refine ⟨first :: before, x, after, rfl, List.forall_mem_cons.mpr ⟨passes, passed⟩, ?_⟩
        rwa [List.length_cons, Nat.add_comm before.length, ← Nat.add_assoc]
    · rintro ⟨before, x, after, same, passed, stops⟩
      cases before with
      | nil =>
        cases same
        exact .inl stops
      | cons other before =>
        cases same
        obtain ⟨passes, passed⟩ := List.forall_mem_cons.mp passed
        rw [List.length_cons, Nat.add_comm before.length, ← Nat.add_assoc] at stops
        exact .inr ⟨passes, before, x, after, rfl, passed, stops⟩

theorem exists_forall₂_iff {α β : Type} {relates : α → β → Prop} {l : List α} :
    (∃ results, List.Forall₂ relates l results) ↔ ∀ a ∈ l, ∃ b, relates a b := by
  induction l with
  | nil => simp
  | cons a l ih =>
    rw [List.forall_mem_cons, ← ih]
    simp only [List.forall₂_cons_left_iff]
    constructor
    · rintro ⟨_, b, results, first, later, rfl⟩
      exact ⟨⟨b, first⟩, results, later⟩
    · rintro ⟨⟨b, first⟩, results, later⟩
      exact ⟨_, b, results, first, later, rfl⟩

namespace Action

def Passes (line : List Char) : Prop :=
  ∀ body, body? line = some body → ∃ a, parseLine body = .ok a

def RefusedFor (line : List Char) (r : Refusal) : Prop :=
  ∃ body, body? line = some body ∧ parseLine body = .error (.refused r)

theorem parseLines_eq_refused {number : Nat} {lines : List (List Char)} {r : Refusal} :
    parseLines number lines = .error (.refused r) ↔ ∃ before line after, lines = before ++ line :: after ∧
      (∀ earlier ∈ before, Passes earlier) ∧
      ∃ r', RefusedFor line r' ∧ r = .atLine (number + before.length) r' := by
  rw [← reaches_zipIdx fun line number => ∃ r', RefusedFor line r' ∧ r = .atLine number r']
  induction lines generalizing number with
  | nil => simp [parseLines_nil, reaches_nil]
  | cons line rest ih =>
    rw [List.zipIdx_cons, reaches_cons, ← ih]
    cases asks : body? line with
    | none => simp [parseLines_of_none asks, Passes, RefusedFor, asks]
    | some body =>
      rw [parseLines_of_some asks]
      cases read : parseLine body with
      | error e => cases e <;> simp [Passes, RefusedFor, asks, read, eq_comm]
      | ok a => simp [Passes, RefusedFor, asks, read, map_eq_error]

theorem exists_table_iff {config : String} : (∃ table, compile config = .ok table) ↔
    ∀ body ∈ (Text.lines config.toList).filterMap body?, ∃ a, parseLine body = .ok a := by
  rw [← exists_forall₂_iff]
  simp only [compile_eq_ok]
  constructor
  · rintro ⟨_, actions, asked, _⟩
    exact ⟨actions, asked⟩
  · rintro ⟨actions, asked⟩
    exact ⟨_, actions, asked, rfl⟩

theorem exists_refusal {config : String} (none : ¬∃ table, compile config = .ok table)
    (readable : ∀ body ∈ (Text.lines config.toList).filterMap body?, ∀ limit,
      parseLine body ≠ .error (.beyond limit)) :
    ∃ r, parseLines 1 (Text.lines config.toList) = .error (.refused r) := by
  cases read : parseLines 1 (Text.lines config.toList) with
  | ok actions => exact absurd ⟨_, by rw [compile, read]; rfl⟩ none
  | error e =>
    cases e with
    | refused r => exact ⟨r, rfl⟩
    | beyond limit =>
      obtain ⟨before, body, after, same, _, beyond⟩ := parseLines_eq_beyond.mp read
      exact absurd beyond (readable body (by simp [same]) limit)

/-- What a text describes, as far as no line of it is beyond reading. It is a table just if all lines that say
    something are taken. The table has the actions of these lines in the order of rank, and those of one rank
    in the order of their lines. Otherwise the text is refused for the first line that is refused, with the
    number of this line among all lines, the first of which has the number one. -/
theorem compile_of_linesOf {config : String} {lines : List (List Char)}
    (parted : Text.LinesOf config.toList lines)
    (readable : ∀ body ∈ lines.filterMap body?, ∀ limit, parseLine body ≠ .error (.beyond limit)) :
    ((∃ table, compile config = .ok table) ↔ ∀ body ∈ lines.filterMap body?, ∃ a, parseLine body = .ok a) ∧
    (∀ table, compile config = .ok table → ∃ actions,
      List.Forall₂ (fun body a => parseLine body = .ok a) (lines.filterMap body?) actions ∧
      table.Perm actions ∧ InRank table ∧
      ∀ rank, table.filter (·.rank = rank) = actions.filter (·.rank = rank)) ∧
    ((¬∃ table, compile config = .ok table) → ∃ before line after body r,
      lines = before ++ line :: after ∧ body? line = some body ∧ parseLine body = .error (.refused r) ∧
      (∀ earlier ∈ before.filterMap body?, ∃ a, parseLine earlier = .ok a) ∧
      compile config = .error (.refused (.atLine (before.length + 1) r)) ∧
      (Refusal.atLine (before.length + 1) r).message =
        "line " ++ toString (before.length + 1) ++ ": " ++ r.message) := by
  obtain rfl := Text.lines_of_linesOf parted
  refine ⟨exists_table_iff, fun table read => ?_, fun none => ?_⟩
  · obtain ⟨actions, asked, rfl⟩ := compile_eq_ok.mp read
    exact ⟨actions, asked, List.mergeSort_perm actions ranksBefore, inRank_mergeSort actions,
      filter_mergeSort actions⟩
  · obtain ⟨r, refused⟩ := exists_refusal none readable
    obtain ⟨before, line, after, parted, passed, r', ⟨body, asks, own⟩, rfl⟩ :=
      parseLines_eq_refused.mp refused
    rw [Nat.add_comm] at refused
    refine ⟨before, line, after, body, r', parted, asks, own, fun earlier member => ?_,
      map_eq_error.mpr refused, rfl⟩
    obtain ⟨line', among, asks'⟩ := List.mem_filterMap.mp member
    exact passed line' among earlier asks'

/-- A text with an unknown action after a comment, a blank line and a line that is taken, with line ends of
    three kinds. -/
theorem compile_of_linesOf_unknown :
    let config := "# comment\r\n\n  action=cmd(true),vd,always\u2028action=bogus,vd,always\n"
    let lines := Text.lines config.toList
    Text.LinesOf config.toList lines ∧
      (∀ body ∈ lines.filterMap body?, ∀ limit, parseLine body ≠ .error (.beyond limit)) ∧
      (∃ before line after body r, lines = before ++ line :: after ∧ body? line = some body ∧
        parseLine body = .error (.refused r) ∧
        compile config = .error (.refused (.atLine (before.length + 1) r))) ∧
      compile config = .error (.refused (.atLine 4 (.unknownAction "bogus"))) := by
  intro config lines
  have parted : Text.LinesOf config.toList lines := Text.lines_eq_iff.mp rfl
  have bodies : lines.filterMap body? = ["action=cmd(true),vd,always", "action=bogus,vd,always"] := by
    decide +kernel
  have taken : parseLine "action=cmd(true),vd,always" =
      .ok ⟨"cmd(true)", .shell "true", [Button.volumeDown.token .press, Button.volumeDown.token .release],
        .always, "always"⟩ := by
    decide +kernel
  have refused : parseLine "action=bogus,vd,always" = .error (.refused (.unknownAction "bogus")) := by
    decide +kernel
  have readable : ∀ body ∈ lines.filterMap body?, ∀ limit, parseLine body ≠ .error (.beyond limit) := by
    simp [bodies, taken, refused]
  obtain ⟨table, _, other⟩ := compile_of_linesOf parted readable
  have none : ¬∃ table, compile config = .ok table := by
    simp [table, bodies, refused]
  obtain ⟨before, line, after, body, r, whole, asks, own, _, read, _⟩ := other none
  exact ⟨parted, readable, ⟨before, line, after, body, r, whole, asks, own, read⟩, by decide +kernel⟩

end Action

end Gesture
