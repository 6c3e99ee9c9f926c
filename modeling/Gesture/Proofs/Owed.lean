import Gesture.Recognizer

namespace Gesture

theorem Button.token_inj {a b : Button} {edge : Edge} : a.token edge = b.token edge ↔ a = b := by
  constructor
  · exact fun same => Button.shortName_inj (congrArg Token.name same)
  · rintro rfl
    rfl

theorem mem_heldReleases {b : Button} {events : List Event} :
    b.token .release ∈ Event.heldReleases events ↔ b ∈ Event.held events := by
  simp only [Event.heldReleases, List.mem_map, Button.token_inj, exists_eq_right]

namespace Recognizer

theorem mem_oweMore {owed more : List Token} {t : Token} :
    t ∈ oweMore owed more ↔ t ∈ owed ∨ t ∈ more := by
  unfold oweMore
  induction more generalizing owed with
  | nil => simp
  | cons first rest ih =>
    rw [List.foldl_cons, ih]
    split
    · rename_i present
      have owes : first ∈ owed := by simpa using present
      constructor
      · exact fun h => h.imp id (List.mem_cons_of_mem first)
      · rintro (h | h)
        · exact .inl h
        · rcases List.mem_cons.mp h with rfl | h
          · exact .inl owes
          · exact .inr h
    · rw [List.mem_append, List.mem_singleton, List.mem_cons, or_assoc]

theorem dropOwed_cons (owed : List Token) (e : Event) (rest : List Event) :
    let release := e.button.token .release
    let dropped := dropOwed (owed.filter (· != release)) rest
    dropOwed owed (e :: rest) =
      (if release ∈ owed ∧ e.edge = .release then dropped.1 else e :: dropped.1, dropped.2) := by
  simp only [dropOwed, Bool.and_eq_true, List.contains_iff_mem, beq_iff_eq]
  split <;> rfl

theorem mem_owed_after {owed : List Token} {events : List Event} {t : Token} :
    t ∈ (dropOwed owed events).2 ↔ t ∈ owed ∧ ∀ e ∈ events, e.button.token .release ≠ t := by
  induction events generalizing owed with
  | nil => simp [dropOwed]
  | cons e rest ih =>
    rw [dropOwed_cons, ih]
    simp only [List.mem_filter, bne_iff_ne, List.forall_mem_cons, and_assoc]
    constructor
    · rintro ⟨owes, other, later⟩
      exact ⟨owes, other.symm, later⟩
    · rintro ⟨owes, other, later⟩
      exact ⟨owes, other.symm, later⟩

theorem dropOwed_of_free {owed : List Token} {events : List Event}
    (free : ∀ e ∈ events, e.button.token .release ∉ owed) : dropOwed owed events = (events, owed) := by
  induction events with
  | nil => rfl
  | cons e rest ih =>
    obtain ⟨first, later⟩ := List.forall_mem_cons.mp free
    have same : owed.filter (· != e.button.token .release) = owed := by
      apply List.filter_eq_self.mpr
      intro t owes
      rw [bne_iff_ne]
      rintro rfl
      exact first owes
    rw [dropOwed_cons, same, ih later, if_neg (fun h => first h.1)]

theorem dropOwed_eventsOf {owed : List Token} {b : Button} (free : b.token .release ∉ owed)
    (value : Option Int) (elapsed : Int) :
    dropOwed owed (Decoder.eventsOf b value elapsed) = (Decoder.eventsOf b value elapsed, owed) := by
  apply dropOwed_of_free
  cases value <;> simpa [Decoder.eventsOf] using free

theorem dropOwed_release {owed : List Token} {e : Event} (release : e.edge = .release)
    (owes : e.button.token .release ∈ owed) :
    dropOwed owed [e] = ([], owed.filter (· != e.button.token .release)) := by
  rw [dropOwed_cons, if_pos ⟨owes, release⟩]
  rfl

end Recognizer

end Gesture
