import Gesture.Proofs.Compiled

namespace Gesture

namespace Text

theorem splitAt_eq_splitOn {α : Type} [DecidableEq α] (separator : α) (text : List α) :
    splitAt separator text = text.splitOn separator := by
  induction text with
  | nil => rfl
  | cons c rest ih =>
    rw [splitAt, ih, List.splitOn_cons_eq_if_modifyHead]
    by_cases same : c = separator
    · simp [same]
    · obtain ⟨piece, pieces, parted⟩ := List.exists_cons_of_ne_nil (List.splitOn_ne_nil separator rest)
      simp [same, parted]

theorem separator_not_mem {α : Type} [DecidableEq α] {separator : α} {text piece : List α}
    (among : piece ∈ splitAt separator text) : separator ∉ piece := by
  induction text generalizing piece with
  | nil => simp_all [splitAt]
  | cons c rest ih =>
    unfold splitAt at among
    split at among
    · rcases List.mem_cons.mp among with rfl | later
      · exact List.not_mem_nil
      · exact ih later
    · rename_i other
      split at among
      · rename_i none
        simp_all [splitAt_eq_splitOn]
      · rename_i first pieces parted
        rw [parted] at ih
        rcases List.mem_cons.mp among with rfl | later
        · exact List.not_mem_cons_of_ne_of_not_mem (Ne.symm other) (ih List.mem_cons_self)
        · exact ih (List.mem_cons_of_mem _ later)

theorem intercalate_append {separator : Char} {left right : List (List Char)} (some : left ≠ [])
    (some' : right ≠ []) :
    [separator].intercalate (left ++ right) =
      [separator].intercalate left ++ separator :: [separator].intercalate right := by
  induction left with
  | nil => exact absurd rfl some
  | cons piece left ih =>
    cases left with
    | nil => simp [List.intercalate_cons_of_ne_nil some']
    | cons next left =>
      rw [List.cons_append, List.intercalate_cons_of_ne_nil (by simp), ih (List.cons_ne_nil _ _),
        List.intercalate_cons_of_ne_nil (List.cons_ne_nil _ _)]
      simp

end Text

theorem reaches_iff_of_pairwise {α : Type} {pass stop : α → Prop} {precedes : α → α → Prop} {l : List α}
    (ordered : l.Pairwise precedes) (asymm : ∀ x y, precedes x y → ¬precedes y x) :
    Reaches pass stop l ↔ ∃ x ∈ l, stop x ∧ ∀ y ∈ l, precedes y x → pass y := by
  constructor
  · rintro ⟨before, x, after, rfl, passed, stops⟩
    refine ⟨x, by simp, stops, fun y member first => ?_⟩
    have later := (List.pairwise_cons.mp (List.pairwise_append.mp ordered).2.1).1
    rcases List.mem_append.mp member with earlier | rest
    · exact passed y earlier
    · rcases List.mem_cons.mp rest with rfl | last
      · exact absurd first (asymm y y first)
      · exact absurd first (asymm x y (later y last))
  · rintro ⟨x, member, stops, passed⟩
    obtain ⟨before, after, rfl⟩ := List.append_of_mem member
    have earlier := (List.pairwise_append.mp ordered).2.2
    exact ⟨before, x, after, rfl, fun y first => passed y (by simp [first]) (earlier y first x (by simp)), stops⟩

namespace Action

def Parts.joined (parts : Parts) : List Char :=
  parts.action.toList ++ ',' :: (parts.pattern.toList ++ ',' :: parts.condition.toList)

/-- Whether a text is made up of three texts, and the pattern has no comma in it. -/
structure Parts.Split (text : List Char) (parts : Parts) : Prop where
  text : text = parts.joined
  pattern : ',' ∉ parts.pattern.toList

/-- Of two ways to take a text as three texts, the one with the shorter action has in its condition what the
    other has as its pattern and its condition. -/
theorem Parts.Split.cases_of_shorter {text : List Char} {x y : Parts} (split : x.Split text)
    (split' : y.Split text) (shorter : x.action.length < y.action.length) :
    (y.action = x.action ++ "," ++ x.pattern ∧ x.condition = y.pattern ++ "," ++ y.condition) ∨
      ∃ rest, y.action = x.action ++ "," ++ x.pattern ++ "," ++ rest ∧
        x.condition = rest ++ "," ++ y.pattern ++ "," ++ y.condition := by
  obtain ⟨same, noComma⟩ := split
  rw [split'.text] at same
  have ofLists : ∀ s t : String, s = t ↔ s.toList = t.toList := fun s t => String.toList_inj.symm
  simp only [ofLists, String.toList_append]
  rcases List.append_eq_append_iff.mp same with ⟨more, longer, later⟩ | ⟨more, longer, later⟩
  · have lengths := congrArg List.length longer
    simp only [List.length_append, String.length_toList] at lengths
    omega
  · cases more with
    | nil =>
      have lengths := congrArg List.length longer
      simp only [List.length_append, String.length_toList, List.length_nil] at lengths
      omega
    | cons c more =>
      obtain ⟨rfl, within⟩ := List.cons.inj later
      -- The pattern ends where the longer action does, or at the next comma in it.
      rcases List.append_eq_append_iff.mp within with ⟨tail, whole, rest⟩ | ⟨tail, whole, rest⟩
      · cases tail with
        | nil => exact .inl ⟨by simp_all, by simp_all⟩
        | cons c tail =>
          obtain ⟨rfl, rest⟩ := List.cons.inj rest
          exact .inr ⟨String.ofList tail, by simp_all, by simp_all⟩
      · cases tail with
        | nil => exact .inl ⟨by simp_all, by simp_all⟩
        | cons c tail =>
          obtain ⟨rfl, _⟩ := List.cons.inj rest
          exact absurd (by simp [whole]) noComma

theorem mem_splitsAfter {before pieces : List (List Char)} {parts : Parts} :
    parts ∈ splitsAfter before pieces ↔
      ∃ more pattern condition rest, pieces = more ++ pattern :: condition :: rest ∧
        parts = ⟨joinPieces (before ++ more), String.ofList pattern, joinPieces (condition :: rest)⟩ := by
  induction pieces generalizing before with
  | nil => simp [splitsAfter]
  | cons pattern pieces ih =>
    cases pieces with
    | nil =>
      refine iff_of_false (by simp [splitsAfter]) ?_
      rintro ⟨more, _, _, _, same, _⟩
      have lengths := congrArg List.length same
      simp only [List.length_cons, List.length_append, List.length_nil] at lengths
      omega
    | cons condition rest =>
      rw [splitsAfter, List.mem_cons, ih]
      constructor
      · rintro (rfl | ⟨more, pattern', condition', rest', same, rfl⟩)
        · exact ⟨[], pattern, condition, rest, rfl, by simp⟩
        · exact ⟨pattern :: more, pattern', condition', rest', by rw [same, List.cons_append], by simp⟩
      · rintro ⟨more, pattern', condition', rest', same, rfl⟩
        cases more with
        | nil =>
          cases same
          exact .inl (by simp)
        | cons first more =>
          obtain ⟨rfl, later⟩ := List.cons.inj same
          exact .inr ⟨more, pattern', condition', rest', later, by simp⟩

theorem toList_joinPieces (pieces : List (List Char)) : (joinPieces pieces).toList = [','].intercalate pieces := by
  rw [joinPieces, String.toList_ofList]

theorem mem_splits {text : List Char} {parts : Parts} : parts ∈ splits text ↔ parts.Split text := by
  obtain ⟨first, pieces, parted⟩ := List.exists_cons_of_ne_nil (List.splitOn_ne_nil ',' text)
  rw [splits, Text.splitAt_eq_splitOn, parted]
  dsimp only
  rw [mem_splitsAfter]
  constructor
  · rintro ⟨more, pattern, condition, rest, rfl, rfl⟩
    have whole : [','].intercalate (text.splitOn ',') = text := List.intercalate_splitOn ','
    have among : pattern ∈ Text.splitAt ',' text := by simp [Text.splitAt_eq_splitOn, parted]
    rw [parted, ← List.cons_append, Text.intercalate_append (List.cons_ne_nil _ _) (List.cons_ne_nil _ _),
      List.intercalate_cons_cons] at whole
    constructor
    · rw [Parts.joined, toList_joinPieces, toList_joinPieces, String.toList_ofList, ← whole]
      simp
    · rw [String.toList_ofList]
      exact Text.separator_not_mem among
  · rintro ⟨rfl, noComma⟩
    -- The pieces of the text are those of the action, the pattern, which is one, and those of the condition.
    rw [Parts.joined, List.splitOn_append_cons_self, List.splitOn_append_cons_self,
      List.splitOn_eq_singleton noComma] at parted
    obtain ⟨start, more, ofAction⟩ := List.exists_cons_of_ne_nil (List.splitOn_ne_nil ',' parts.action.toList)
    obtain ⟨condition, rest, ofCondition⟩ :=
      List.exists_cons_of_ne_nil (List.splitOn_ne_nil ',' parts.condition.toList)
    rw [ofAction, ofCondition, List.cons_append, List.cons.injEq] at parted
    obtain ⟨rfl, rfl⟩ := parted
    refine ⟨more, parts.pattern.toList, condition, rest, rfl, ?_⟩
    have action : joinPieces (start :: more) = parts.action := by
      rw [joinPieces, ← ofAction, List.intercalate_splitOn, String.ofList_toList]
    have ofRest : joinPieces (condition :: rest) = parts.condition := by
      rw [joinPieces, ← ofCondition, List.intercalate_splitOn, String.ofList_toList]
    rw [List.singleton_append, action, ofRest, String.ofList_toList]

theorem length_joinPieces_append {left right : List (List Char)} (some : left ≠ []) (some' : right ≠ []) :
    (joinPieces left).length < (joinPieces (left ++ right)).length := by
  simp only [joinPieces, String.length_ofList, Text.intercalate_append some some', List.length_append,
    List.length_cons]
  omega

theorem splitsAfter_pairwise {before : List (List Char)} (some : before ≠ []) (pieces : List (List Char)) :
    (splitsAfter before pieces).Pairwise fun x y => x.action.length < y.action.length := by
  induction pieces generalizing before with
  | nil => exact .nil
  | cons pattern pieces ih =>
    cases pieces with
    | nil => exact .nil
    | cons condition rest =>
      refine .cons (fun other member => ?_) (ih (by simp))
      obtain ⟨more, _, _, _, _, rfl⟩ := mem_splitsAfter.mp member
      rw [List.append_assoc]
      exact length_joinPieces_append some (by simp)

theorem splits_pairwise (text : List Char) :
    (splits text).Pairwise fun x y => x.action.length < y.action.length := by
  unfold splits
  split
  · exact .nil
  · exact splitsAfter_pairwise (List.cons_ne_nil _ _) _

theorem firstOf_eq_ok {refusal : Refusal} {ways : List Parts} {a : Action} :
    firstOf refusal ways = .ok a ↔
      Reaches (fun parts => ∃ r, ofParts parts = .error (.refused r)) (fun parts => ofParts parts = .ok a)
        ways := by
  induction ways generalizing refusal with
  | nil => simp [firstOf, reaches_nil]
  | cons parts rest ih =>
    rw [reaches_cons]
    unfold firstOf
    cases read : ofParts parts with
    | error e => cases e <;> simp [ih]
    | ok a => simp

theorem firstOf_ne_refused {refusal : Refusal} {ways : List Parts} {parts : Parts} (among : parts ∈ ways)
    {a : Action} (read : ofParts parts = .ok a) (r : Refusal) :
    firstOf refusal ways ≠ .error (.refused r) := by
  induction ways generalizing refusal with
  | nil => cases among
  | cons other rest ih =>
    unfold firstOf
    split
    · rename_i refused
      rcases List.mem_cons.mp among with rfl | later
      · rw [read] at refused
        cases refused
      · exact ih later
    · rename_i taken
      exact fun failed => taken r failed

theorem parseLine_eq_ok {line : String} {a : Action} :
    parseLine line = .ok a ↔ ∃ text, line.toList = "action=".toList ++ text ∧
      ∃ parts : Parts, parts.Split text ∧ ofParts parts = .ok a ∧
        ∀ other : Parts, other.Split text → other.action.length < parts.action.length →
          ∃ r, ofParts other = .error (.refused r) := by
  have first (text : List Char) :
      Reaches (fun parts => ∃ r, ofParts parts = .error (.refused r)) (fun parts => ofParts parts = .ok a)
          (splits text) ↔
        ∃ parts ∈ splits text, ofParts parts = .ok a ∧ ∀ other ∈ splits text,
          other.action.length < parts.action.length → ∃ r, ofParts other = .error (.refused r) :=
    reaches_iff_of_pairwise (splits_pairwise text) fun _ _ => Nat.lt_asymm
  simp only [mem_splits] at first
  unfold parseLine
  dsimp only
  split
  · rename_i begins
    obtain ⟨text, same⟩ := List.isPrefixOf_iff_prefix.mp begins
    rw [← same, List.drop_left, firstOf_eq_ok, first]
    simp
  · rename_i other
    refine iff_of_false nofun ?_
    rintro ⟨text, same, _⟩
    exact other (List.isPrefixOf_iff_prefix.mpr ⟨text, same.symm⟩)

end Action

end Gesture
