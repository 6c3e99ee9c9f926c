import Gesture.Proofs.Held
import Gesture.Proofs.Schedule

namespace Gesture.Recognizer

structure View where
  phase : Phase := .idle
  received : Nat := 0
  buffer : Buffer
  since : List Event
  deriving DecidableEq, Repr

namespace View

def opened (buffer : Buffer) : View where
  buffer := buffer
  since := buffer.events

def enter (v : View) (e : Entry) : View :=
  match e.step with
  | .received _ => { v with received := v.received + 1 }
  | .phase p => { v with phase := p }
  | .recorded events buffer => { v with buffer := buffer, since := v.since ++ events }
  | .firing _ => { v with buffer := v.buffer.clear, since := [] }
  | _ => v

def after (v : View) (entries : List Entry) : View :=
  entries.foldl enter v

theorem after_append (v : View) (left right : List Entry) :
    v.after (left ++ right) = (v.after left).after right :=
  List.foldl_append

/-- What is known of a recognizer is so. Its buffer has only events recorded since it last fired. -/
structure Fits (v : View) (s : State) : Prop where
  phase : v.phase = s.phase
  received : v.received = s.received
  buffer : v.buffer = s.buffer
  since : s.buffer.events.Sublist v.since

theorem fits_opened (buffer : Buffer) : (opened buffer).Fits { buffer := buffer } :=
  ⟨rfl, rfl, rfl, .refl _⟩

end View

def Step.isPlain : Step → Bool
  | .recorded _ _ | .firing _ | .executed _ => false
  | _ => true

section

variable {β : Type} (f : View → Entry → Option β)

def readings (v : View) : List Entry → List β
  | [] => []
  | e :: rest => (f v e).toList ++ readings (v.enter e) rest

theorem readings_append (v : View) (left right : List Entry) :
    readings f v (left ++ right) = readings f v left ++ readings f (v.after left) right := by
  induction left generalizing v with
  | nil => rfl
  | cons e rest ih =>
    rw [List.cons_append, readings, readings, ih, List.append_assoc]
    rfl

def TakesNoPlain : Prop :=
  ∀ (v : View) (e : Entry), e.step.isPlain = true → f v e = none

variable {f}

theorem readings_plain (no : TakesNoPlain f) {entries : List Entry}
    (plain : ∀ e ∈ entries, e.step.isPlain = true) (v : View) : readings f v entries = [] := by
  induction entries generalizing v with
  | nil => rfl
  | cons e rest ih =>
    obtain ⟨first, later⟩ := List.forall_mem_cons.mp plain
    rw [readings, no v e first, ih later]
    rfl

end

section

variable {v : View} {s : State} {time : Rat}

theorem View.Fits.break (fits : v.Fits s) (settled : s.Settled) (time : Rat) :
    (v.after (entriesAt time (breakSteps s.wait))).Fits s.idle := by
  obtain ⟨phase, received, buffer, since⟩ := fits
  cases wait : s.wait with
  | input =>
    have idle : v.phase = .idle := by rw [phase, settled.phase, wait]; rfl
    exact ⟨idle, received, buffer, since⟩
  | armed a deadline => exact ⟨rfl, received, buffer, since⟩
  | repeating a last => exact ⟨rfl, received, buffer, since⟩

theorem View.Fits.evaluate {r : Recognizer} {events : List Event} (fits : v.Fits s)
    (ok : (r.evaluate time events s).failure = none) :
    (v.after (r.evaluate time events s).entries).Fits (r.evaluate time events s).state := by
  obtain ⟨phase, received, buffer, since⟩ := fits
  have since' := (s.buffer.extend_sublist events).trans (since.append_right events)
  rw [View.after, foldl_evaluate (fun _ _ _ => rfl) (fun _ _ _ => rfl), search_of_ok ok, evaluate_state ok]
  cases r.found time s.received (s.buffer.extend events) with
  | none => exact ⟨rfl, received, rfl, since'⟩
  | some a => exact ⟨rfl, received, rfl, since'⟩

theorem View.Fits.accept {r : Recognizer} {batch : List Event} (fits : v.Fits s) (settled : s.Settled)
    (ok : (r.accept time batch s).failure = none) :
    (v.after (r.accept time batch s).entries).Fits (r.accept time batch s).state := by
  by_cases arrived : batch = []
  · rw [arrived, accept_nil settled]
    split
    · exact fits.break settled time
    · exact fits
  · rw [accept_batch settled arrived, Outcome.andThen_mk] at ok ⊢
    rw [View.after_append]
    exact (fits.break settled time).evaluate ok

theorem View.Fits.receive {r : Recognizer} {raw : Raw} (fits : v.Fits s) (settled : s.Settled)
    (ok : (r.receive time raw s).failure = none) :
    (v.after (r.receive time raw s).entries).Fits (r.receive time raw s).state := by
  obtain ⟨events, decoder, decoded⟩ := decoded_of_ok ok
  rw [receive_decoded decoded, Outcome.andThen_mk] at ok ⊢
  rw [View.after_append]
  obtain ⟨phase, received, buffer, since⟩ := fits
  have taken : (v.after (entriesAt time [.received s.received])).Fits (s.taking events decoder) :=
    ⟨phase, congrArg (· + 1) received, buffer, since⟩
  exact taken.accept (settled.taking events decoder) ok

theorem View.Fits.fire {a : Action} (fits : v.Fits s) (ok : (fire time a s).failure = none) :
    (v.after (fire time a s).entries).Fits (fire time a s).state := by
  obtain ⟨phase, received, buffer, since⟩ := fits
  rw [fire_entries, fire_state ok]
  cases repeats : holds a s with
  | true =>
    rw [firingEnd_of_holds repeats]
    exact ⟨rfl, received, congrArg Buffer.clear buffer, .refl []⟩
  | false =>
    rcases firingEnd_of_not_holds repeats with shown | shown
    all_goals
      rw [shown]
      exact ⟨rfl, received, congrArg Buffer.clear buffer, .refl []⟩

theorem View.Fits.repeatUntil (fits : v.Fits s) (time : Rat) :
    (v.after (Recognizer.repeatUntil time s).entries).Fits (Recognizer.repeatUntil time s).state := by
  have idle : ∀ e ∈ (Recognizer.repeatUntil time s).entries, ∀ v : View, v.enter e = v := by
    intro e member v
    obtain ⟨a, last, _, shown⟩ := mem_repeatUntil member
    simp only [View.enter, shown]
  rw [View.after, foldl_of_idle idle]
  obtain ⟨phase, received, buffer, since⟩ := fits
  cases wait : s.wait with
  | repeating a last =>
    rw [repeatUntil_repeating wait]
    exact ⟨phase, received, buffer, since⟩
  | _ =>
    simp only [Recognizer.repeatUntil, wait]
    exact ⟨phase, received, buffer, since⟩

theorem View.Fits.expire (fits : v.Fits s) (ok : (expire time s).failure = none) :
    (v.after (expire time s).entries).Fits (expire time s).state := by
  rcases expire_cases time s with ⟨_, same⟩ | ⟨a, due, _, _, same⟩
  · rw [same]
    exact fits.repeatUntil time
  · rw [same] at ok ⊢
    obtain ⟨fired, _⟩ := Outcome.failure_andThen_eq_none.mp ok
    rw [Outcome.andThen_of_ok fired, View.after_append]
    exact (fits.fire fired).repeatUntil time

theorem View.Fits.elapse (fits : v.Fits s) (ok : (elapse time s).failure = none) :
    (v.after (elapse time s).entries).Fits (elapse time s).state := by
  cases wait : s.wait with
  | input =>
    simp only [Recognizer.elapse, wait]
    exact fits
  | armed a deadline =>
    simp only [Recognizer.elapse, wait] at ok ⊢
    exact fits.fire ok
  | repeating a last =>
    obtain ⟨phase, received, buffer, since⟩ := fits
    simp only [Recognizer.elapse, wait]
    exact ⟨phase, received, buffer, since⟩

theorem View.Fits.react {r : Recognizer} (fits : v.Fits s) (settled : s.Settled) {stimulus : Stimulus}
    (ok : (r.react time stimulus s).failure = none) :
    (v.after (r.react time stimulus s).entries).Fits (r.react time stimulus s).state := by
  cases stimulus with
  | report raw => exact fits.receive settled ok
  | timeout => exact fits.elapse ok

end

theorem receive_plain (time : Rat) (wait : Wait) (index : Nat) :
    ∀ e ∈ entriesAt time (.received index :: breakSteps wait), e.step.isPlain = true := by
  intro e member
  rcases List.mem_cons.mp (mem_entriesAt.mp member).2 with shown | shown
  on_goal 2 => rcases mem_breakSteps shown with ⟨_, shown⟩ | ⟨_, shown⟩ | ⟨_, shown⟩
  all_goals rw [shown]; rfl

section

variable {β : Type} {f : View → Entry → Option β}

theorem readings_evaluate (no : TakesNoPlain f) (r : Recognizer) (v : View) (time : Rat)
    (events : List Event) (s : State) :
    readings f v (r.evaluate time events s).entries =
      (f v ⟨time, .recorded events (s.buffer.extend events)⟩).toList := by
  have before : ∀ e ∈ entriesAt time ((s.buffer.extendLost events).map .lost),
      e.step.isPlain = true ∧ ∀ v : View, v.enter e = v := by
    intro e member
    obtain ⟨lost, _, shown⟩ := List.mem_map.mp (mem_entriesAt.mp member).2
    simp only [View.enter, ← shown, Step.isPlain, implies_true, and_self]
  have after : ∀ (notes : List Note) (result), ∀ e ∈ entriesAt time (.phase .evaluating ::
      (List.map .noted notes ++ verdict result)), e.step.isPlain = true := by
    intro notes result e member
    have shown := (mem_entriesAt.mp member).2
    simp only [List.mem_cons, List.mem_append, List.mem_map] at shown
    rcases shown with shown | ⟨note, _, shown⟩ | shown
    · rw [shown]; rfl
    · rw [← shown]; rfl
    · rcases mem_verdict shown with ⟨_, shown⟩ | ⟨_, shown⟩ <;> rw [shown] <;> rfl
  rw [evaluate_entries, evaluationSteps, entriesAt_append, readings_append,
    readings_plain no (fun e member => (before e member).1), View.after,
    foldl_of_idle (fun e member => (before e member).2), List.nil_append]
  exact (congrArg _ (readings_plain no (after _ _) _)).trans (List.append_nil _)

theorem readings_repeatUntil {v : View} {s : State} {time : Rat}
    (nothing : ∀ last a, s.wait.phase = .repeating → f v ⟨last, .executed a⟩ = none) :
    readings f v (repeatUntil time s).entries = [] := by
  have passed : ∀ e ∈ (repeatUntil time s).entries, f v e = none ∧ v.enter e = v := by
    intro e member
    obtain ⟨a, last, wait, shown⟩ := mem_repeatUntil member
    obtain ⟨instant, step⟩ := e
    subst shown
    exact ⟨nothing instant a (by rw [wait]; rfl), rfl⟩
  generalize (repeatUntil time s).entries = entries at passed ⊢
  induction entries with
  | nil => rfl
  | cons e rest ih =>
    obtain ⟨⟨first, same⟩, later⟩ := List.forall_mem_cons.mp passed
    rw [readings, first, same, ih later]
    rfl

theorem readings_fire (no : TakesNoPlain f) (v : View) (time : Rat) (a : Action) (s : State) :
    let fired : View := { v with phase := .fired }
    readings f v (fire time a s).entries =
      (f fired ⟨time, .firing a⟩).toList ++
        (f { fired with buffer := v.buffer.clear, since := [] } ⟨time, .executed a⟩).toList := by
  have ending : ∀ e ∈ entriesAt time (firingEnd a s), e.step.isPlain = true := by
    intro e member
    rcases mem_firingEnd (mem_entriesAt.mp member).2 with ⟨_, shown⟩ | shown
    all_goals rw [shown]; rfl
  have phase : f v ⟨time, .phase .fired⟩ = none := no v _ rfl
  rw [fire_entries]
  simp only [entriesAt, List.map_cons, readings, phase] at ending ⊢
  rw [readings_plain no ending, List.append_nil]
  rfl

end

end Gesture.Recognizer
