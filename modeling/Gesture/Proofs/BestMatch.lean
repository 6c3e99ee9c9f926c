import Gesture.Proofs.LineOrder
import Gesture.Proofs.OneSnapshot

namespace Gesture

theorem occursIn_iff {α : Type} [BEq α] [LawfulBEq α] {pattern sequence : List α} :
    occursIn pattern sequence = true ↔ pattern <:+: sequence := by
  induction sequence with
  | nil => rw [occursIn, List.isEmpty_iff, List.infix_nil]
  | cons a rest ih => rw [occursIn, Bool.or_eq_true, List.isPrefixOf_iff_prefix, ih, List.infix_cons_iff]

namespace Action

/-- Whether the pattern of an action is a run of tokens, and not empty. -/
def OccursIn (tokens : List Token) (a : Action) : Prop :=
  a.pattern ≠ [] ∧ a.pattern <:+: tokens

theorem matchesAnywhere_iff {a : Action} {tokens : List Token} :
    matchesAnywhere a.pattern tokens = true ↔ a.OccursIn tokens := by
  rw [matchesAnywhere, Bool.and_eq_true, occursIn_iff, Bool.not_eq_true', List.isEmpty_eq_false_iff, OccursIn]

instance (tokens : List Token) (a : Action) : Decidable (a.OccursIn tokens) :=
  decidable_of_iff _ matchesAnywhere_iff

/-- Whether the pattern of an action occurs and its condition is true under the answers of the host. -/
structure Fits (search : String → String → Bool) (android : String) (answers : Answers)
    (tokens : List Token) (a : Action) : Prop where
  occurs : a.OccursIn tokens
  holds : a.condition.holds search android answers = true

instance (search : String → String → Bool) (android : String) (answers : Answers) (tokens : List Token)
    (a : Action) : Decidable (a.Fits search android answers tokens) :=
  decidable_of_iff (a.OccursIn tokens ∧ a.condition.holds search android answers = true)
    ⟨fun ⟨occurs, holds⟩ => ⟨occurs, holds⟩, fun fits => ⟨fits.occurs, fits.holds⟩⟩

def wanted (search : String → String → Bool) (android : String) (answers : Answers) (tokens : List Token) :
    List Action → List Query
  | [] => []
  | a :: rest =>
    if a.Fits search android answers tokens then a.condition.needs answers
    else if a.OccursIn tokens then a.condition.needs answers ++ wanted search android answers tokens rest
    else wanted search android answers tokens rest

variable {search : String → String → Bool} {android : String} {answers : Answers} {tokens : List Token}
  {table : List Action}

theorem mem_wanted {q : Query} :
    q ∈ wanted search android answers tokens table ↔
      Reaches (fun a => ¬a.Fits search android answers tokens)
        (fun a => a.OccursIn tokens ∧ q ∈ a.condition.needs answers) table := by
  induction table with
  | nil => simp [wanted, reaches_nil]
  | cons a rest ih =>
    rw [reaches_cons, wanted, ← ih]
    split
    · rename_i fits
      simp [fits, fits.occurs]
    · rename_i unfit
      split
      · rename_i occurs
        simp [unfit, occurs]
      · rename_i absent
        simp [unfit, absent]

theorem InRank.le_of_first {before after : List Action} {a : Action} (ordered : InRank (before ++ a :: after))
    (unfit : ∀ b ∈ before, ¬b.Fits search android answers tokens) :
    ∀ b ∈ before ++ a :: after, b.Fits search android answers tokens → a.rank ≤ b.rank := by
  intro b member fits
  have later : ∀ b ∈ after, a.rank ≤ b.rank := (List.pairwise_cons.mp (List.pairwise_append.mp ordered).2.1).1
  rcases List.mem_append.mp member with first | first
  · exact absurd fits (unfit b first)
  · rcases List.mem_cons.mp first with rfl | last
    · exact le_rfl
    · exact later b last

end Action

theorem Snapshot.mem_queries {s : Snapshot} {q : Query} : q ∈ s.queries ↔ .asked q ∈ s.notes := by
  rw [Snapshot.queries, List.mem_filterMap]
  constructor
  · rintro ⟨note, member, same⟩
    cases note <;> cases same
    exact member
  · exact fun member => ⟨.asked q, member, rfl⟩

theorem Snapshot.Faithful.mem_queries_asks {host : Host} {time : Rat} {received : Nat} {s : Snapshot}
    (faithful : s.Faithful host time received) {queries : List Query} {q : Query} :
    q ∈ (queries.foldl (Snapshot.ask host time) s).queries ↔ q ∈ s.queries ∨ q ∈ queries := by
  induction queries generalizing s with
  | nil => simp
  | cons p rest ih =>
    have single := faithful.queries_asks (List.nodup_singleton p)
    rw [List.foldl_cons, List.foldl_nil] at single
    rw [List.foldl_cons, ih (faithful.ask p), single, List.mem_append, List.mem_filter, List.mem_singleton,
      List.mem_cons, decide_eq_true_eq]
    tauto

namespace Recognizer

variable {r : Recognizer} {search : String → String → Bool} {time : Rat} {tokens : List Token}
  {s : Snapshot} {table : List Action}

theorem candidate_asks (r : Recognizer) (time : Rat) (tokens : List Token) (s : Snapshot)
    (table : List Action) :
    ∃ queries : List Query, (r.candidate time tokens s table).2 = queries.foldl (Snapshot.ask r.host time) s := by
  induction table generalizing s with
  | nil => exact ⟨[], rfl⟩
  | cons a rest ih =>
    unfold candidate
    split
    · obtain ⟨first, evaluated⟩ := Snapshot.evaluate_asks r.host r.android time s a.condition
      split <;> rename_i evaluation <;> rw [evaluation] at evaluated
      · exact ⟨first, evaluated⟩
      · obtain ⟨more, later⟩ := ih _
        exact ⟨first ++ more, by rw [later, List.foldl_append, ← evaluated]⟩
      · exact ⟨first, evaluated⟩
    · exact ih s

theorem candidate_of_agrees {answers : Answers}
    (finds : ∀ a ∈ table, ∀ regex ∈ a.condition.searched? r.android, Regex.Finds search regex)
    (agrees : answers.Agrees (r.candidate time tokens s table).2) :
    r.candidate time tokens s table =
      (.ok (table.find? fun a => a.Fits search r.android answers tokens),
        (Action.wanted search r.android answers tokens table).foldl (Snapshot.ask r.host time) s) := by
  induction table generalizing s with
  | nil => rfl
  | cons a rest ih =>
    obtain ⟨here, later⟩ := List.forall_mem_cons.mp finds
    by_cases occurs : a.OccursIn tokens
    · have matches_ := Action.matchesAnywhere_iff.mpr occurs
      -- What is known after this condition is known at the end.
      have evaluated : s.evaluate r.host r.android time a.condition =
          (.ok (a.condition.holds search r.android answers),
            (a.condition.needs answers).foldl (Snapshot.ask r.host time) s) := by
        refine Snapshot.evaluate_of_agrees here ?_
        rw [candidate, if_pos matches_] at agrees
        split at agrees <;> rename_i evaluation <;> rw [evaluation]
        · exact agrees
        · obtain ⟨queries, asked⟩ := candidate_asks r time tokens _ rest
          exact (asked ▸ agrees).of_asks
        · exact agrees
      rw [candidate, if_pos matches_, evaluated] at agrees ⊢
      cases holds : a.condition.holds search r.android answers with
      | true =>
        have fits : a.Fits search r.android answers tokens := ⟨occurs, holds⟩
        simp only [Action.wanted, List.find?_cons, fits, if_true, decide_true]
      | false =>
        have unfit : ¬a.Fits search r.android answers tokens := fun fits => by simp [fits.holds] at holds
        simp only [holds] at agrees ⊢
        rw [ih later agrees]
        simp only [Action.wanted, List.find?_cons, unfit, occurs, if_true, if_false, decide_false,
          List.foldl_append]
    · have unfit : ¬a.Fits search r.android answers tokens := fun fits => occurs fits.occurs
      have passed : ¬matchesAnywhere a.pattern tokens = true := occurs ∘ Action.matchesAnywhere_iff.mp
      rw [candidate, if_neg passed] at agrees ⊢
      rw [ih later agrees]
      simp only [Action.wanted, List.find?_cons, unfit, occurs, if_false, decide_false]

/-- The action that is found in a table is, of those that fit under the first replies of the host, the first
    in rank, and in the table if several have this rank. None is found just if none fits. Each query is asked
    at most once, and only for an action whose pattern occurs and that no action before it spares. -/
theorem candidate_is_first_in_rank {config : String} (read : Action.compile config = .ok r.table)
    (finds : ∀ a ∈ r.table, ∀ regex ∈ a.condition.searched? r.android, Regex.Finds search regex)
    (time : Rat) (received : Nat) (tokens : List Token) (unasked : Answers) :
    let found := r.candidate time tokens { received := received } r.table
    let answers := r.host.answers time received found.2.queries unasked
    let fits := Action.Fits search r.android answers tokens
    ∃ best, found.1 = .ok best ∧ (best = none ↔ ∀ a ∈ r.table, ¬fits a) ∧
      (∀ a ∈ best, fits a ∧ (∀ b ∈ r.table, fits b → a.rank ≤ b.rank) ∧
        ∃ before after, r.table = before ++ a :: after ∧ ∀ b ∈ before, ¬fits b) ∧
      ∀ q, found.2.notes.count (.asked q) ≤ 1 ∧
        (.asked q ∈ found.2.notes ↔ ∃ before a after, r.table = before ++ a :: after ∧
          (∀ b ∈ before, ¬fits b) ∧ a.OccursIn tokens ∧ q ∈ a.condition.needs answers) := by
  intro found answers fits
  have start := Snapshot.Faithful.start r.host time received
  obtain ⟨queries, asks⟩ := candidate_asks r time tokens { received := received } r.table
  -- What is known at the end are first replies, and they agree with the answers.
  have faithful : found.2.Faithful r.host time received := by
    rw [show found.2 = _ from asks]
    exact start.asks queries
  have result : found = _ := candidate_of_agrees finds (faithful.agrees unasked)
  refine ⟨r.table.find? fun a => fits a, congrArg Prod.fst result, ?_, ?_, fun q => ⟨?_, ?_⟩⟩
  · simp
  · intro a first
    obtain ⟨chosen, before, after, parted, unfit⟩ := List.find?_eq_some_iff_append.mp first
    have unfit : ∀ b ∈ before, ¬fits b := by simpa using unfit
    refine ⟨of_decide_eq_true chosen, ?_, before, after, parted, unfit⟩
    have ordered := Action.inRank_of_compile read
    rw [parted] at ordered ⊢
    exact ordered.le_of_first unfit
  · exact (faithful.notes_once q).1
  · have nothing : q ∉ ({ received := received } : Snapshot).queries := List.not_mem_nil
    have known : found.2 = _ := congrArg Prod.snd result
    rw [← Snapshot.mem_queries, known, start.mem_queries_asks, or_iff_right nothing, Action.mem_wanted]
    rfl

def vanishing : Host where
  locked _ := .failed
  foreground m := if m.asked = 1 then .answered (some "alien") else .answered none
  title _ := .answered (some "x")

def clicksLines : List String :=
  ["action=cmd(a),vd,screenUnlocked", "action=cmd(b),vd,window(x)", "action=cmd(c),vd vd,home"]

def clicksTable : List Action :=
  let click : List Token := [Button.volumeDown.token .press, Button.volumeDown.token .release]
  [⟨"cmd(c)", .shell "c", click ++ click, .home, "home"⟩,
    ⟨"cmd(a)", .shell "a", click, .unlocked, "screenUnlocked"⟩,
    ⟨"cmd(b)", .shell "b", click, .title "x", "window(x)"⟩]

def clicks : Recognizer where
  table := clicksTable
  host := vanishing

theorem compile_clicksLines : Action.compile ("\n".intercalate clicksLines) = .ok clicks.table := by
  have bodies : (Text.lines ("\n".intercalate clicksLines).toList).filterMap Action.body? = clicksLines := by
    decide +kernel
  have first : Action.parseLine "action=cmd(a),vd,screenUnlocked" = .ok (clicksTable[1]) := by decide +kernel
  have second : Action.parseLine "action=cmd(b),vd,window(x)" = .ok (clicksTable[2]) := by decide +kernel
  have third : Action.parseLine "action=cmd(c),vd vd,home" = .ok (clicksTable[0]) := by decide +kernel
  have ordered : Action.InRank clicksTable :=
    List.Pairwise.imp Action.ranksBefore_iff.mp (by decide +kernel)
  exact Action.compile_of_apart bodies (.cons first (.cons second (.cons third .nil))) ordered
    (by decide +kernel) (by decide +kernel)

theorem candidate_is_first_in_rank_clicks :
    let tokens := (clicksTable[0]).pattern
    let found := clicks.candidate 0 tokens {} clicks.table
    Action.compile ("\n".intercalate clicksLines) = .ok clicks.table ∧
      (∀ a ∈ clicks.table, ∀ regex ∈ a.condition.searched? clicks.android,
        Regex.Finds Regex.occurs regex) ∧
      found.1 = .ok (some clicksTable[1]) ∧ found.2.queries = [.locked, .foreground] ∧
      (∀ b ∈ clicks.table, b.Fits Regex.occurs clicks.android
          (clicks.host.answers 0 0 found.2.queries ⟨.failed, .failed, .failed⟩) tokens →
        (clicksTable[1]).rank ≤ b.rank) ∧
      .asked .title ∉ found.2.notes := by
  intro tokens found
  have finds : ∀ a ∈ clicks.table, ∀ regex ∈ a.condition.searched? clicks.android,
      Regex.Finds Regex.occurs regex := by
    have x : Regex.Finds Regex.occurs "x" := Regex.finds_of_no_groups (by decide +kernel)
    simp [clicks, clicksTable, Condition.searched?, Condition.regex?, x]
  obtain ⟨best, result, _, isFirst, _⟩ :=
    candidate_is_first_in_rank compile_clicksLines finds 0 0 tokens ⟨.failed, .failed, .failed⟩
  have chosen : found.1 = .ok (some clicksTable[1]) := by decide +kernel
  have same : best = some clicksTable[1] := Except.ok.inj (result.symm.trans chosen)
  exact ⟨compile_clicksLines, finds, chosen, by decide +kernel, (isFirst _ same).2.1, by decide +kernel⟩

end Recognizer

end Gesture
