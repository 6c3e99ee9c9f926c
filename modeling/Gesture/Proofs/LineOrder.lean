import Gesture.Proofs.Compiled
import Gesture.Proofs.Rank
import Mathlib.Data.List.Nodup
import Mathlib.Data.List.Perm.Basic

namespace Gesture

namespace Condition

theorem withRegex_eq_ok {text : String} {make : String → Condition} {regex : List Char} {c : Condition} :
    withRegex text make regex = .ok c ↔
      (∃ compiled, Regex.compile (String.ofList regex) = .ok compiled) ∧ make (String.ofList regex) = c := by
  unfold withRegex
  dsimp only
  split <;> simp_all

theorem parse_of_strip {text other : String} (same : Text.strip text.toList = Text.strip other.toList)
    {c : Condition} (read : parse text = .ok c) : parse other = .ok c := by
  unfold parse at read ⊢
  rw [← same]
  dsimp only at read ⊢
  split at read
  · exact read
  · split at read
    · exact withRegex_eq_ok.mpr (withRegex_eq_ok.mp read)
    · exact withRegex_eq_ok.mpr (withRegex_eq_ok.mp read)
    · cases read

end Condition

namespace Action

theorem eq_of_ofParts {parts parts' : Parts} {a b : Action} (read : ofParts parts = .ok a)
    (read' : ofParts parts' = .ok b) (text : a.text = b.text) (pattern : a.pattern = b.pattern)
    (condition : a.conditionText = b.conditionText) : a = b := by
  have from_ := readFrom_of_ofParts read
  have from' := readFrom_of_ofParts read'
  have kind : a.kind = b.kind := by
    have ofText := from_.kind
    rw [← from_.text, text, from'.text, from'.kind] at ofText
    exact (Except.ok.inj ofText).symm
  have stripped : Text.strip parts.condition.toList = Text.strip parts'.condition.toList := by
    have texts := condition
    rw [conditionText_of_ofParts read, conditionText_of_ofParts read'] at texts
    exact String.ofList_injective texts
  have conditions : a.condition = b.condition := by
    have ofText := Condition.parse_of_strip stripped from_.condition
    rw [from'.condition] at ofText
    exact (Except.ok.inj ofText).symm
  cases a
  cases b
  simp_all

theorem eq_of_rank {config : String} {table : List Action} (read : compile config = .ok table)
    {a b : Action} (member : a ∈ table) (member' : b ∈ table) (rank : a.rank = b.rank)
    (pattern : a.pattern = b.pattern) : a = b := by
  obtain ⟨parts, taken⟩ := parts_of_compile read a member
  obtain ⟨parts', taken'⟩ := parts_of_compile read b member'
  simp only [Action.rank, toLex_inj, Prod.mk.injEq] at rank
  exact eq_of_ofParts taken taken' rank.2.1 pattern rank.2.2

theorem inRank_of_compile {config : String} {table : List Action} (read : compile config = .ok table) :
    InRank table := by
  obtain ⟨actions, _, rfl⟩ := compile_eq_ok.mp read
  exact inRank_mergeSort actions

theorem compile_of_apart {config : String} {bodies : List String} {actions table : List Action}
    (same : (Text.lines config.toList).filterMap body? = bodies)
    (read : List.Forall₂ (fun body a => parseLine body = .ok a) bodies actions) (ordered : InRank table)
    (perm : actions.Perm table) (apart : (table.map rank).Nodup) : compile config = .ok table := by
  rw [compile_of_bodies same read]
  refine congrArg Except.ok (ordered.eq_of_perm (inRank_mergeSort actions) ?_ ?_).symm
  · exact perm.symm.trans (List.mergeSort_perm actions ranksBefore).symm
  · exact fun _ member _ member' => List.inj_on_of_nodup_map apart member member'

section

variable {lines permuted : List String} {table : List Action}

theorem compile_joined (clean : ∀ line ∈ lines, Text.OneLine line.toList) :
    compile ("\n".intercalate lines) = .ok table ↔ ∃ actions,
      List.Forall₂ (fun body a => parseLine body = .ok a)
        (lines.filterMap fun line => body? line.toList) actions ∧
      actions.mergeSort ranksBefore = table := by
  rw [compile_eq_ok, bodies_of_joined clean]

theorem compile_permuted (clean : ∀ line ∈ lines, Text.OneLine line.toList)
    (read : compile ("\n".intercalate lines) = .ok table) (perm : permuted.Perm lines) :
    ∃ table', compile ("\n".intercalate permuted) = .ok table' ∧ table'.Perm table := by
  have clean' : ∀ line ∈ permuted, Text.OneLine line.toList :=
    fun line member => clean line (perm.mem_iff.mp member)
  obtain ⟨actions, asked, rfl⟩ := (compile_joined clean).mp read
  obtain ⟨actions', asked', same⟩ := List.perm_comp_forall₂ (perm.filterMap _) asked
  refine ⟨actions'.mergeSort ranksBefore, (compile_joined clean').mpr ⟨actions', asked', rfl⟩, ?_⟩
  exact (List.mergeSort_perm _ _).trans (same.trans (List.mergeSort_perm _ _).symm)

/-- The line of an action can be put first. Then the action comes first among those of its rank. -/
theorem exists_perm_first (clean : ∀ line ∈ lines, Text.OneLine line.toList)
    (read : compile ("\n".intercalate lines) = .ok table) {a : Action} (member : a ∈ table) :
    ∃ permuted, permuted.Perm lines ∧ ∀ table', compile ("\n".intercalate permuted) = .ok table' →
      (table'.filter (·.rank = a.rank)).head? = some a := by
  obtain ⟨actions, asked, rfl⟩ := (compile_joined clean).mp read
  obtain ⟨body, among, ofBody⟩ := exists_of_forall₂ asked (List.mem_mergeSort.mp member)
  obtain ⟨line, found, asks⟩ := List.mem_filterMap.mp among
  have perm : (line :: lines.erase line).Perm lines := (List.perm_cons_erase found).symm
  refine ⟨_, perm, fun table' read' => ?_⟩
  have clean' : ∀ other ∈ line :: lines.erase line, Text.OneLine other.toList :=
    fun other member => clean other (perm.mem_iff.mp member)
  obtain ⟨actions', asked', rfl⟩ := (compile_joined clean').mp read'
  simp only [List.filterMap_cons, asks] at asked'
  obtain ⟨first, more, ofFirst, _, rfl⟩ := List.forall₂_cons_left_iff.mp asked'
  rw [ofBody] at ofFirst
  cases ofFirst
  rw [filter_mergeSort, List.filter_cons_of_pos (by simp)]
  rfl

end

/-- Lines that describe a table do so in any order, with the same actions and the same sequence of ranks.
    All orders of the lines describe one table just if no two actions in it rank equal with different
    patterns. -/
theorem compile_of_perm {lines : List String} (clean : ∀ line ∈ lines, Text.OneLine line.toList)
    {table : List Action} (read : compile ("\n".intercalate lines) = .ok table) :
    (∀ permuted : List String, permuted.Perm lines → ∃ table',
      compile ("\n".intercalate permuted) = .ok table' ∧ table'.Perm table ∧
        table'.map rank = table.map rank) ∧
    ((∀ permuted : List String, permuted.Perm lines → compile ("\n".intercalate permuted) = .ok table) ↔
      ∀ a ∈ table, ∀ b ∈ table, a.rank = b.rank → a.pattern = b.pattern) := by
  have ordered := inRank_of_compile read
  refine ⟨fun permuted perm => ?_, fun all a member b member' rank => ?_, fun apart permuted perm => ?_⟩
  · obtain ⟨table', read', same⟩ := compile_permuted clean read perm
    exact ⟨table', read', same, (inRank_of_compile read').map_rank_eq ordered same⟩
  · -- With the line of `a` first, `a` leads its rank; with that of `b` first, `b` leads the same rank.
    obtain ⟨permuted, perm, first⟩ := exists_perm_first clean read member
    obtain ⟨permuted', perm', first'⟩ := exists_perm_first clean read member'
    have heads := (first table (all permuted perm)).symm.trans
      (rank ▸ first' table (all permuted' perm'))
    exact congrArg Action.pattern (Option.some.inj heads)
  · obtain ⟨table', read', same⟩ := compile_permuted clean read perm
    have equal : table = table' := ordered.eq_of_perm (inRank_of_compile read') same.symm
      fun a member b member' rank => eq_of_rank read member member' rank (apart a member b member' rank)
    rw [read', equal]

def clickLine (b : Button) : String :=
  "action=cmd(a)," ++ b.shortName ++ ",always"

def clickOf (b : Button) : Action where
  text := "cmd(a)"
  kind := .shell "a"
  pattern := [b.token .press, b.token .release]
  condition := .always
  conditionText := "always"

theorem oneLine_clickLine (b : Button) : Text.OneLine (clickLine b).toList := by
  cases b <;> decide +kernel

theorem parse_clickLine (b : Button) : parseLine (clickLine b) = .ok (clickOf b) := by
  have kind : Kind.parse "cmd(a)" = .ok (.shell "a") := by decide +kernel
  have condition : Condition.parse "always" = .ok .always := by decide +kernel
  have stripped : Text.strip "always".toList = "always".toList := by decide +kernel
  have begins : "action=".toList.isPrefixOf (clickLine b).toList = true := by cases b <;> decide +kernel
  have ways : splits ((clickLine b).toList.drop "action=".toList.length) =
      [⟨"cmd(a)", b.shortName, "always"⟩] := by
    cases b <;> decide +kernel
  simp only [parseLine, begins, ways, firstOf, ofParts_click b kind condition stripped, if_true]
  rfl

theorem compile_clickLines (first second : Button) :
    compile ("\n".intercalate [clickLine first, clickLine second]) = .ok [clickOf first, clickOf second] := by
  have clean : ∀ line ∈ [clickLine first, clickLine second], Text.OneLine line.toList := by
    simp [oneLine_clickLine]
  have body : ∀ b, body? (clickLine b).toList = some (clickLine b) := by
    intro b
    cases b <;> decide +kernel
  have bodies := bodies_of_joined clean
  simp only [List.filterMap_cons, body, List.filterMap_nil] at bodies
  rw [compile_of_bodies bodies (.cons (parse_clickLine first) (.cons (parse_clickLine second) .nil))]
  have equal : ranksBefore (clickOf first) (clickOf second) = true := ranksBefore_iff.mpr le_rfl
  rw [List.mergeSort_of_pairwise (by simpa using equal)]

theorem compile_of_perm_clickLines :
    let lines := [clickLine .volumeDown, clickLine .volumeUp]
    let table := [clickOf .volumeDown, clickOf .volumeUp]
    (∀ line ∈ lines, Text.OneLine line.toList) ∧ compile ("\n".intercalate lines) = .ok table ∧
      (∃ table', compile ("\n".intercalate lines.reverse) = .ok table' ∧ table'.Perm table ∧
        table'.map rank = table.map rank) ∧
      ¬∀ permuted : List String, permuted.Perm lines → compile ("\n".intercalate permuted) = .ok table := by
  have clean : ∀ line ∈ [clickLine .volumeDown, clickLine .volumeUp], Text.OneLine line.toList := by
    simp [oneLine_clickLine]
  have read := compile_clickLines .volumeDown .volumeUp
  obtain ⟨same, unique⟩ := compile_of_perm clean read
  refine ⟨clean, read, same _ (List.reverse_perm _), fun all => ?_⟩
  have patterns := unique.mp all (clickOf .volumeDown) (by simp) (clickOf .volumeUp) (by simp) rfl
  exact absurd patterns (by decide)

/-- When the lines change places, so do the actions. -/
theorem compile_clickLines_reversed :
    let lines := [clickLine .volumeDown, clickLine .volumeUp]
    (∀ line ∈ lines, Text.OneLine line.toList) ∧ lines.reverse.Perm lines ∧
      compile ("\n".intercalate lines) = .ok [clickOf .volumeDown, clickOf .volumeUp] ∧
      compile ("\n".intercalate lines.reverse) = .ok [clickOf .volumeUp, clickOf .volumeDown] ∧
      [clickOf .volumeDown, clickOf .volumeUp] ≠ [clickOf .volumeUp, clickOf .volumeDown] :=
  ⟨by simp [oneLine_clickLine], List.reverse_perm _, compile_clickLines .volumeDown .volumeUp,
    compile_clickLines .volumeUp .volumeDown, by decide⟩

end Action

end Gesture
