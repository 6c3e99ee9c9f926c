import Gesture.Action
import Mathlib.Data.Prod.Lex
import Mathlib.Data.String.Basic

namespace Gesture.Action

abbrev Rank := ℤ ×ₗ String ×ₗ String

def rank (a : Action) : Rank :=
  toLex (-(a.pattern.length : ℤ), toLex (a.text, a.conditionText))

theorem ranksBefore_iff {a b : Action} : ranksBefore a b = true ↔ a.rank ≤ b.rank := by
  have lengths : -(a.pattern.length : ℤ) < -(b.pattern.length : ℤ) ↔ b.pattern.length < a.pattern.length := by
    omega
  have same : -(a.pattern.length : ℤ) = -(b.pattern.length : ℤ) ↔ a.pattern.length = b.pattern.length := by
    omega
  simp only [ranksBefore, rank, Prod.Lex.toLex_le_toLex, lengths, same]
  by_cases length : a.pattern.length = b.pattern.length
  · by_cases text : a.text = b.text
    · simp only [length, text, ne_eq, not_true, if_false, lt_self_iff_false, false_or, true_and,
        Bool.not_eq_true', decide_eq_false_iff_not, not_lt]
    · simp only [length, text, ne_eq, not_true, not_false_eq_true, if_true, if_false,
        lt_self_iff_false, false_or, true_and, false_and, or_false, decide_eq_true_eq]
  · simp only [length, ne_eq, not_false_eq_true, if_true, false_and, or_false, decide_eq_true_eq]

theorem ranksBefore_trans (a b c : Action) (first : ranksBefore a b = true)
    (second : ranksBefore b c = true) : ranksBefore a c = true := by
  rw [ranksBefore_iff] at first second ⊢
  exact first.trans second

theorem ranksBefore_total (a b : Action) : (ranksBefore a b || ranksBefore b a) = true := by
  rw [Bool.or_eq_true, ranksBefore_iff, ranksBefore_iff]
  exact le_total a.rank b.rank

def InRank (actions : List Action) : Prop :=
  actions.Pairwise fun a b => a.rank ≤ b.rank

theorem inRank_mergeSort (actions : List Action) : InRank (actions.mergeSort ranksBefore) :=
  (List.pairwise_mergeSort ranksBefore_trans ranksBefore_total actions).imp ranksBefore_iff.mp

section

variable {left right : List Action}

theorem InRank.map_rank_eq (ordered : InRank left) (ordered' : InRank right) (perm : left.Perm right) :
    left.map rank = right.map rank :=
  List.Perm.eq_of_pairwise (fun _ _ _ _ => le_antisymm) (List.pairwise_map.mpr ordered)
    (List.pairwise_map.mpr ordered') (perm.map rank)

theorem InRank.eq_of_perm (ordered : InRank left) (ordered' : InRank right) (perm : left.Perm right)
    (apart : ∀ a ∈ left, ∀ b ∈ left, a.rank = b.rank → a = b) : left = right := by
  refine List.Perm.eq_of_pairwise ?_ ordered ordered' perm
  intro a b member member' before after
  exact apart a member b (perm.mem_iff.mpr member') (le_antisymm before after)

end

theorem filter_mergeSort (actions : List Action) (rank : Rank) :
    (actions.mergeSort ranksBefore).filter (·.rank = rank) = actions.filter (·.rank = rank) := by
  have equal : (actions.filter (·.rank = rank)).Pairwise fun a b => ranksBefore a b = true := by
    rw [List.pairwise_filter]
    refine List.pairwise_of_forall fun a b here there => ?_
    rw [decide_eq_true_eq] at here there
    rw [ranksBefore_iff, here, there]
  -- As they are in order already, sorting keeps them in their order; and none is lost or added.
  have within := List.sublist_mergeSort ranksBefore_trans ranksBefore_total equal List.filter_sublist
  have kept : (actions.filter (·.rank = rank)).Sublist
      ((actions.mergeSort ranksBefore).filter (·.rank = rank)) := by
    have again := within.filter (·.rank = rank)
    simpa only [List.filter_filter, Bool.and_self] using again
  have count := ((List.mergeSort_perm actions ranksBefore).filter (·.rank = rank)).length_eq
  exact (kept.eq_of_length_le count.le).symm

end Gesture.Action
