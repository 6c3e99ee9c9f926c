import Gesture.Recognizer

namespace Gesture.Recognizer

theorem entriesAt_append (time : Rat) (left right : List Step) :
    entriesAt time (left ++ right) = entriesAt time left ++ entriesAt time right := by
  simp only [entriesAt, List.map_append]

theorem mem_entriesAt {time : Rat} {steps : List Step} {e : Entry} :
    e ∈ entriesAt time steps ↔ e.instant = time ∧ e.step ∈ steps := by
  simp only [entriesAt, List.mem_map]
  constructor
  · rintro ⟨step, member, rfl⟩
    exact ⟨rfl, member⟩
  · rintro ⟨rfl, member⟩
    exact ⟨e.step, member, rfl⟩

theorem foldl_of_idle {σ : Type} {enter : σ → Entry → σ} {entries : List Entry}
    (idle : ∀ e ∈ entries, ∀ known, enter known e = known) (known : σ) :
    entries.foldl enter known = known := by
  induction entries with
  | nil => rfl
  | cons e rest ih =>
    obtain ⟨first, later⟩ := List.forall_mem_cons.mp idle
    rw [List.foldl_cons, first known]
    exact ih later

namespace Outcome

variable {o : Outcome} {next later : State → Outcome}

theorem andThen_of_ok (ok : o.failure = none) (next : State → Outcome) :
    o.andThen next =
      ⟨(next o.state).state, o.entries ++ (next o.state).entries, (next o.state).failure⟩ := by
  simp only [andThen, ok]

@[simp] theorem andThen_mk (s : State) (entries : List Entry) (next : State → Outcome) :
    (⟨s, entries, none⟩ : Outcome).andThen next =
      ⟨(next s).state, entries ++ (next s).entries, (next s).failure⟩ := rfl

theorem andThen_through {s t : State} {left right : List Entry}
    (same : next s = (⟨t, right, none⟩ : Outcome).andThen later) :
    (⟨s, left, none⟩ : Outcome).andThen next = (⟨t, left ++ right, none⟩ : Outcome).andThen later := by
  rw [andThen_mk, same, andThen_mk, andThen_mk, List.append_assoc]

theorem state_andThen (s : State) (entries : List Entry) (next : State → Outcome) :
    ((⟨s, entries, none⟩ : Outcome).andThen next).state = (next s).state := rfl

theorem andThen_of_failed {f : Failure} (failed : o.failure = some f) (next : State → Outcome) :
    o.andThen next = o := by
  simp only [andThen, failed]

theorem andThen_nothing (o : Outcome) : o.andThen (⟨·, [], none⟩) = o := by
  obtain ⟨state, entries, failure⟩ := o
  cases failure with
  | none => rw [andThen_mk, List.append_nil]
  | some f => rfl

theorem andThen_congr (same : o.failure = none → next o.state = later o.state) :
    o.andThen next = o.andThen later := by
  cases failed : o.failure with
  | some f => rw [andThen_of_failed failed, andThen_of_failed failed]
  | none => rw [andThen_of_ok failed, andThen_of_ok failed, same failed]

theorem failure_andThen_eq_none :
    (o.andThen next).failure = none ↔ o.failure = none ∧ (next o.state).failure = none := by
  cases failed : o.failure with
  | none => simp only [andThen_of_ok failed, true_and]
  | some f => simp only [andThen_of_failed failed, failed, reduceCtorEq, false_and]

theorem andThen_assoc :
    (o.andThen next).andThen later = o.andThen fun s => (next s).andThen later := by
  cases failed : o.failure with
  | some f => rw [andThen_of_failed failed, andThen_of_failed failed, andThen_of_failed failed]
  | none =>
    rw [andThen_of_ok failed, andThen_of_ok failed]
    cases second : (next o.state).failure with
    | some f => rw [andThen_of_failed rfl, andThen_of_failed second, second]
    | none => rw [andThen_of_ok rfl, andThen_of_ok second, List.append_assoc]

theorem mem_entries_andThen {e : Entry} (member : e ∈ (o.andThen next).entries) :
    e ∈ o.entries ∨ o.failure = none ∧ e ∈ (next o.state).entries := by
  cases failed : o.failure with
  | some f =>
    rw [andThen_of_failed failed] at member
    exact .inl member
  | none =>
    rw [andThen_of_ok failed] at member
    exact (List.mem_append.mp member).imp id (⟨rfl, ·⟩)

end Outcome

end Gesture.Recognizer
