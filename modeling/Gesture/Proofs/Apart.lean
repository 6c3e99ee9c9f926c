import Gesture.Path
import Gesture.Proofs.Splits
import Mathlib.Data.List.Chain
import Mathlib.Data.List.TakeWhile

namespace Gesture

theorem CodePoint.toNat_outside (c : Char) : c.toNat < 0xD800 ∨ 0xE000 ≤ c.toNat := by
  have same : c.toNat = c.val.toNat := rfl
  rcases c.valid with below | ⟨above, _⟩ <;> omega

theorem CodePoint.ofUnit_code (p : CodePoint) : ofUnit p.code = p := by
  cases p with
  | char c =>
    have outside := toNat_outside c
    rw [code, ofUnit, dif_neg (by omega), Char.ofNat_toNat]
  | half offset =>
    have inside : 0xD800 ≤ 0xD800 + offset.val ∧ 0xD800 + offset.val < 0xE000 := by omega
    rw [code, ofUnit, dif_pos inside]
    exact congrArg half (Fin.ext (Nat.add_sub_cancel_left ..))

namespace CodeText

theorem shown_ofString (text : String) : (ofString text).shown = text := by
  rw [shown, ofString, List.flatMap_map]
  exact (congrArg String.ofList (List.flatMap_singleton' _)).trans String.ofList_toList

/-- Texts in which no half of a surrogate pair stands right before its other half. -/
def Apart (t : CodeText) : Prop :=
  t.IsChain fun p q => p.isHigh = true → q.isLow = false

section

variable {p : CodePoint} {s t : CodeText}

theorem apart_nil : Apart [] :=
  List.isChain_nil

theorem apart_singleton (p : CodePoint) : Apart [p] :=
  List.isChain_singleton p

theorem apart_cons :
    Apart (p :: t) ↔ (p.isHigh = true → ∀ q ∈ t.head?, q.isLow = false) ∧ Apart t := by
  unfold Apart
  rw [List.isChain_cons]
  exact and_congr_left' ⟨fun next high q head => next q head high, fun next q head high => next high q head⟩

theorem apart_chars (text : List Char) : Apart (text.map .char) := by
  induction text with
  | nil => exact apart_nil
  | cons c text ih => exact apart_cons.mpr ⟨nofun, ih⟩

theorem apart_ofString (text : String) : Apart text :=
  apart_chars text.toList

theorem Apart.append_char (left : s.Apart) (c : Char) (right : t.Apart) : Apart (s ++ .char c :: t) := by
  induction s with
  | nil => exact apart_cons.mpr ⟨nofun, right⟩
  | cons p s ih =>
    obtain ⟨next, rest⟩ := apart_cons.mp left
    refine apart_cons.mpr ⟨fun high q head => ?_, ih rest⟩
    cases s with
    | nil =>
      cases head
      rfl
    | cons r s => exact next high q head

theorem apart_of_no_high (none : ∀ p ∈ t, p.isHigh = false) : t.Apart := by
  induction t with
  | nil => exact apart_nil
  | cons p t ih =>
    rw [List.forall_mem_cons] at none
    exact apart_cons.mpr ⟨fun high => absurd high (Bool.eq_false_iff.mp none.1), ih none.2⟩

theorem stray?_eq_none : stray? t = none ↔ ∀ p ∈ t, p.isStray = false := by
  unfold stray?
  split
  · rename_i all
    simpa [List.dropWhile_eq_nil_iff] using all
  · rename_i all
    refine iff_of_false nofun fun none => ?_
    rw [List.dropWhile_eq_nil_iff.mpr (by simpa using none)] at all
    cases all

theorem isStray_of_isHigh (high : p.isHigh = true) : p.isStray = true := by
  cases p with
  | char c => cases high
  | half offset =>
    simp only [CodePoint.isHigh, CodePoint.isStray, decide_eq_true_eq, Bool.or_eq_true] at high ⊢
    omega

theorem apart_of_stray? (none : stray? t = none) : t.Apart :=
  apart_of_no_high fun p member => Bool.eq_false_iff.mpr fun high =>
    Bool.eq_false_iff.mp (stray?_eq_none.mp none p member) (isStray_of_isHigh high)

theorem apart_intercalate (c : Char) {parts : List CodeText} (each : ∀ part ∈ parts, part.Apart) :
    Apart ([.char c].intercalate parts) := by
  induction parts with
  | nil => exact apart_nil
  | cons part parts ih =>
    rw [List.forall_mem_cons] at each
    cases parts with
    | nil => simpa using each.1
    | cons next parts =>
      rw [List.intercalate_cons_cons, List.append_assoc]
      exact each.1.append_char c (ih each.2)

end

end CodeText

theorem Text.infix_intercalate {α : Type} {separator piece : List α} {pieces : List (List α)}
    (among : piece ∈ pieces) : piece <:+: separator.intercalate pieces := by
  induction pieces with
  | nil => cases among
  | cons first rest ih =>
    cases rest with
    | nil => simp [List.mem_singleton.mp among]
    | cons next rest =>
      rw [List.intercalate_cons_cons, List.append_assoc]
      rcases List.mem_cons.mp among with rfl | among
      · exact (List.prefix_append _ _).isInfix
      · exact (ih among).trans ((List.suffix_append _ _).trans (List.suffix_append _ _)).isInfix

theorem Text.infix_of_mem_splitAt {α : Type} [DecidableEq α] {separator : α} {text piece : List α}
    (among : piece ∈ splitAt separator text) : piece <:+: text := by
  rw [splitAt_eq_splitOn] at among
  have whole : [separator].intercalate (text.splitOn separator) = text := List.intercalate_splitOn separator
  exact whole ▸ infix_intercalate among

theorem Path.apart_ofText {text : CodeText} (apart : text.Apart) : (ofText text).text.Apart := by
  have parts : ∀ part ∈ (ofText text).parts, part.Apart := fun part member =>
    apart.infix (Text.infix_of_mem_splitAt (List.mem_filter.mp member).1)
  unfold Path.text
  split
  · exact CodeText.apart_singleton _
  · have behind := CodeText.apart_intercalate '/' parts
    generalize (ofText text).slashes = slashes
    induction slashes with
    | zero => exact behind
    | succ slashes ih => exact CodeText.apart_nil.append_char '/' ih

end Gesture
