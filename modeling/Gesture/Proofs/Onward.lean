import Gesture.Proofs.Account
import Gesture.Proofs.View

namespace Gesture.Recognizer

structure InTime (arrivals : List Arrival) (endTime : Rat) : Prop where
  sorted : arrivals.Pairwise (·.time ≤ ·.time)
  ended : ∀ x ∈ arrivals, x.time ≤ endTime

instance (arrivals : List Arrival) (endTime : Rat) : Decidable (InTime arrivals endTime) :=
  decidable_of_iff (arrivals.Pairwise (·.time ≤ ·.time) ∧ ∀ x ∈ arrivals, x.time ≤ endTime)
    ⟨fun h => ⟨h.1, h.2⟩, fun h => ⟨h.sorted, h.ended⟩⟩

theorem InTime.tail {x : Arrival} {rest : List Arrival} {endTime : Rat}
    (inTime : InTime (x :: rest) endTime) : InTime rest endTime :=
  ⟨inTime.sorted.tail, fun y member => inTime.ended y (List.mem_cons_of_mem x member)⟩

theorem InTime.later {x : Arrival} {rest : List Arrival} {endTime : Rat}
    (inTime : InTime (x :: rest) endTime) : ∀ t ∈ (x :: rest).map (·.time), x.time ≤ t := by
  intro t member
  obtain ⟨y, among, rfl⟩ := List.mem_map.mp member
  rcases List.mem_cons.mp among with rfl | among
  · exact Rat.le_refl
  · exact List.rel_of_pairwise_cons inTime.sorted among

def onward (r : Recognizer) (endTime : Rat) (arrivals : List Arrival) (s : State) : Outcome :=
  (r.feed arrivals s).andThen (expire endTime)

theorem standing_eq_onward (r : Recognizer) (buffer : Buffer) (arrivals : List Arrival) (time : Rat) :
    r.standing buffer arrivals time = r.onward time arrivals { buffer := buffer } := rfl

def nextTime (endTime : Rat) : List Arrival → Rat
  | [] => endTime
  | x :: _ => x.time

section

variable (r : Recognizer) (endTime : Rat) (s : State)

theorem onward_nil : r.onward endTime [] s = expire endTime s := rfl

theorem onward_cons (x : Arrival) (rest : List Arrival) :
    r.onward endTime (x :: rest) s =
      (expire x.time s).andThen fun s =>
        (r.receive x.time x.raw s).andThen (r.onward endTime rest) := by
  simp only [onward, feed, Outcome.andThen_assoc]
  rfl

theorem onward_append (before : List Arrival) (x : Arrival) (after : List Arrival) :
    r.onward endTime (before ++ x :: after) s =
      (r.onward x.time before s).andThen fun s =>
        (r.receive x.time x.raw s).andThen (r.onward endTime after) := by
  induction before generalizing s with
  | nil => exact onward_cons r endTime s x after
  | cons y rest ih =>
    simp only [List.cons_append, onward_cons, Outcome.andThen_assoc]
    exact Outcome.andThen_congr fun _ => Outcome.andThen_congr fun _ => ih _

end

/-- A run that does not fail goes on in three parts: what is due before a report, what the report
    brings about, and how the run goes on after it. -/
theorem onward_cons_of_ok {r : Recognizer} {endTime : Rat} {s : State} {x : Arrival} {rest : List Arrival}
    (ok : (r.onward endTime (x :: rest) s).failure = none) :
    let waiting := expire x.time s
    let taking := r.receive x.time x.raw waiting.state
    let later := r.onward endTime rest taking.state
    waiting.failure = none ∧ taking.failure = none ∧ later.failure = none ∧
      (r.onward endTime (x :: rest) s).entries =
        waiting.entries ++ (taking.entries ++ later.entries) := by
  rw [onward_cons] at ok ⊢
  obtain ⟨waited, ok⟩ := Outcome.failure_andThen_eq_none.mp ok
  obtain ⟨taken, ok⟩ := Outcome.failure_andThen_eq_none.mp ok
  rw [Outcome.andThen_of_ok waited, Outcome.andThen_of_ok taken]
  exact ⟨waited, taken, ok, rfl⟩

section

variable {r : Recognizer} {endTime time deadline : Rat} {s : State} {a : Action}

theorem fire_wait (ok : (fire time a s).failure = none) :
    (fire time a s).state.wait = if holds a s then .repeating a time else .input := by
  rw [fire_state ok]

theorem fire_early (ok : (fire deadline a s).failure = none) (time : Rat) :
    (fire deadline a s).state.Early time := by
  intro b due wait
  rw [fire_wait ok] at wait
  split at wait <;> cases wait

theorem expire_due_onward (wait : s.wait = .armed a deadline) (due : deadline ≤ time) :
    expire time s = (fire deadline a s).andThen (expire time) := by
  rw [expire_due wait due]
  exact Outcome.andThen_congr fun ok => (expire_of_early (fire_early ok time)).symm

theorem onward_due (r : Recognizer) (wait : s.wait = .armed a deadline) {arrivals : List Arrival}
    (due : deadline ≤ nextTime endTime arrivals) :
    r.onward endTime arrivals s = (fire deadline a s).andThen (r.onward endTime arrivals) := by
  cases arrivals with
  | nil => exact expire_due_onward wait due
  | cons x rest =>
    have due : deadline ≤ x.time := due
    rw [onward_cons, expire_due_onward wait due, Outcome.andThen_assoc]
    exact Outcome.andThen_congr fun _ => (onward_cons r endTime _ x rest).symm

theorem armed_of_repeatUntil {due : Rat} (wait : (repeatUntil time s).state.wait = .armed a due) :
    s.wait = .armed a due := by
  cases before : s.wait with
  | repeating b last =>
    rw [repeatUntil_repeating before] at wait
    cases wait
  | _ =>
    simp only [repeatUntil, before] at wait
    exact wait

theorem expire_early (ok : (expire time s).failure = none) : (expire time s).state.Early time := by
  intro b due wait
  rcases expire_cases time s with ⟨early, same⟩ | ⟨a, first, _, _, same⟩
  · rw [same] at wait
    exact early b due (armed_of_repeatUntil wait)
  · rw [same] at ok wait
    obtain ⟨fired, _⟩ := Outcome.failure_andThen_eq_none.mp ok
    rw [Outcome.andThen_of_ok fired] at wait
    exact fire_early fired time b due (armed_of_repeatUntil wait)

end

theorem onward_received {r : Recognizer} {endTime : Rat} {arrivals : List Arrival} {a : Account}
    {s : State} {all : List Raw} (balanced : Balanced a s [] (arrivals.map (·.raw)) all)
    (ok : (r.onward endTime arrivals s).failure = none) :
    ∃ coming : List Reception,
      (a.follow (r.onward endTime arrivals s).entries).received = a.received ++ coming ∧
        coming.map (·.time) = arrivals.map (·.time) := by
  induction arrivals generalizing a s with
  | nil =>
    rw [onward_nil] at ok ⊢
    exact ⟨[], by rw [received_expire ok, List.append_nil], rfl⟩
  | cons x rest ih =>
    obtain ⟨waited, taken, ok, parts⟩ := onward_cons_of_ok ok
    have balanced' := balanced.expire waited
    obtain ⟨coming, received, arrive⟩ := ih (balanced'.receive taken) ok
    obtain ⟨events, decoder, decoded⟩ := decoded_of_ok taken
    rw [balanced'.received_receive decoded, received_expire waited, List.append_assoc] at received
    let y : Reception := ⟨x.time, events, (dropOwed (expire x.time s).state.owed events).1⟩
    refine ⟨y :: coming, ?_, ?_⟩
    · rw [parts, Account.follow_append, Account.follow_append]
      exact received
    · rw [List.map_cons, List.map_cons, arrive]

end Gesture.Recognizer
