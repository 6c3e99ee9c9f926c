import Gesture.Feed

namespace Gesture.Feed

def endedLines (bytes : List UInt8) : List (List UInt8) :=
  (bytes.splitOn 10).dropLast

theorem cut_cons (b : UInt8) (bytes : List UInt8) :
    cut (b :: bytes) =
      if b = 10 then ([] :: (cut bytes).1, (cut bytes).2)
      else
        match (cut bytes).1 with
        | [] => ([], b :: (cut bytes).2)
        | line :: more => ((b :: line) :: more, (cut bytes).2) := by
  cases parts : cut bytes with
  | mk lines tail => cases lines <;> simp only [cut, parts]

theorem splitOn_eq_cut (bytes : List UInt8) : bytes.splitOn 10 = (cut bytes).1 ++ [(cut bytes).2] := by
  induction bytes with
  | nil => rfl
  | cons b rest ih =>
    rw [List.splitOn] at ih ⊢
    rw [List.splitOnP_cons_eq_if_modifyHead, ih, cut_cons]
    by_cases feed : b = 10
    · simp [feed]
    · simp only [feed, beq_iff_eq, if_false]
      cases (cut rest).1 <;> rfl

theorem endedLines_eq_cut (bytes : List UInt8) : endedLines bytes = (cut bytes).1 := by
  rw [endedLines, splitOn_eq_cut, List.dropLast_concat]

theorem tail_of_no_lines {bytes : List UInt8} (none : (cut bytes).1 = []) : (cut bytes).2 = bytes := by
  induction bytes with
  | nil => rfl
  | cons b rest ih =>
    rw [cut_cons] at none ⊢
    split at none
    · cases none
    · rename_i other
      rw [if_neg other]
      split at none
      · rename_i later
        simp only [ih later]
      · cases none

theorem cut_append (left right : List UInt8) :
    cut (left ++ right) =
      ((cut left).1 ++ (cut ((cut left).2 ++ right)).1, (cut ((cut left).2 ++ right)).2) := by
  induction left with
  | nil => rfl
  | cons b rest ih =>
    cases lines : (cut rest).1 with
    | nil =>
      have tail := tail_of_no_lines lines
      by_cases feed : b = 10
      · rw [List.cons_append, cut_cons, cut_cons b rest, if_pos feed, if_pos feed, ih]
        rfl
      · have all : cut (b :: rest) = ([], b :: rest) := by
          rw [cut_cons, if_neg feed, lines, tail]
        rw [all]
        rfl
    | cons line more =>
      rw [lines] at ih
      rw [List.cons_append, cut_cons, cut_cons b rest, ih, lines]
      by_cases feed : b = 10
      · rw [if_pos feed, if_pos feed]
        rfl
      · rw [if_neg feed, if_neg feed]
        rfl

theorem cut_tail (bytes : List UInt8) : cut (cut bytes).2 = ([], (cut bytes).2) := by
  have again := cut_append bytes []
  rw [List.append_nil, List.append_nil] at again
  have lines : (cut bytes).1 ++ [] = (cut bytes).1 ++ (cut (cut bytes).2).1 := by
    rw [List.append_nil]
    exact congrArg Prod.fst again
  exact Prod.ext (List.append_cancel_left lines).symm (congrArg Prod.snd again).symm

theorem pumpAfter_eq_itemsOf {chunks : List (List UInt8)} (full : ∀ chunk ∈ chunks, chunk ≠ [])
    {pending : List UInt8} (unended : cut pending = ([], pending)) :
    pumpAfter pending chunks = itemsOf (cut (pending ++ chunks.flatten)).1 := by
  induction chunks generalizing pending with
  | nil =>
    rw [List.flatten_nil, List.append_nil, unended]
    rfl
  | cons chunk rest ih =>
    obtain ⟨first, later⟩ := List.forall_mem_cons.mp full
    have arrived : chunk.isEmpty = false := by simpa using first
    have onward := ih later (cut_tail (pending ++ chunk))
    rw [List.flatten_cons, ← List.append_assoc, cut_append, itemsOf, List.filterMap_append]
    rw [pumpAfter, arrived]
    exact congrArg (itemsOf (cut (pending ++ chunk)).1 ++ ·) onward

/-- What a stream gives, in order, is what each of the lines that a line feed ends gives by itself, however
    the bytes of the stream are cut into chunks. -/
theorem pump_eq_endedLines {chunks : List (List UInt8)} (full : ∀ chunk ∈ chunks, chunk ≠ []) :
    pump chunks =
      (endedLines chunks.flatten).filterMap fun line => itemOf? (Text.Utf8.decodeLossy line) := by
  rw [endedLines_eq_cut]
  exact pumpAfter_eq_itemsOf full rfl

def records : List UInt8 :=
  Text.Utf8.encode "media-next\nmé né up\r\n115 down\n116".toList

/-- The records with a name, a character of two bytes and a line end cut in two. -/
def cutRecords : List (List UInt8) :=
  [records.take 3, (records.drop 3).take 10, (records.drop 13).take 9, records.drop 22]

theorem pump_eq_endedLines_cutRecords :
    (∀ chunk ∈ cutRecords, chunk ≠ []) ∧ cutRecords.flatten = records ∧
      pump cutRecords = [.report (.name "media-next", none), .malformed "mé né up",
        .report (.name "115", some 1)] := by
  have full : ∀ chunk ∈ cutRecords, chunk ≠ [] := by decide +kernel
  refine ⟨full, by decide +kernel, ?_⟩
  rw [pump_eq_endedLines full]
  decide +kernel

end Gesture.Feed
