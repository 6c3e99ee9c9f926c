import Gesture.Proofs.Outcome

namespace Gesture

@[simp] theorem Buffer.extend_maxMillis (b : Buffer) (events : List Event) :
    (b.extend events).maxMillis = b.maxMillis := by
  induction events generalizing b with
  | nil => rfl
  | cons e rest ih => exact ih (b.append e)

namespace Recognizer

def Wait.phase : Wait → Phase
  | .input => .idle
  | .armed _ _ => .armed
  | .repeating _ _ => .repeating

structure State.Settled (s : State) : Prop where
  pending : s.pending = []
  phase : s.phase = s.wait.phase

theorem settled_start (buffer : Buffer) : ({ buffer := buffer } : State).Settled := ⟨rfl, rfl⟩

def found (r : Recognizer) (time : Rat) (received : Nat) (buffer : Buffer) : Option Action :=
  match (r.candidate time buffer.tokens { received := received } r.table).1 with
  | .ok found => found
  | .error _ => none

def Wait.after (time : Rat) (maxMillis : Int) : Option Action → Wait
  | none => .input
  | some a => .armed a (time + maxMillis)

def verdict : Except Regex.Error (Option Action) → List Step
  | .error _ => []
  | .ok none => [.phase .idle]
  | .ok (some a) => [.phase .armed, .armed a]

def evaluationSteps (r : Recognizer) (time : Rat) (events : List Event) (s : State) : List Step :=
  let buffer := s.buffer.extend events
  let search := r.candidate time buffer.tokens { received := s.received } r.table
  (s.buffer.extendLost events).map .lost ++ .recorded events buffer :: .phase .evaluating ::
    (search.2.notes.map .noted ++ verdict search.1)

theorem arm_entries (time : Rat) (a : Action) (s : State) :
    (arm time a s).entries = entriesAt time [.phase .armed, .armed a] := by
  by_cases long : (Binary64.ofQuotient? s.buffer.maxMillis 1000).isNone = true
  · simp only [arm, if_pos long]
  · by_cases negative : s.buffer.maxMillis < 0
    · simp only [arm, if_neg long, if_pos negative]
    · simp only [arm, if_neg long, if_neg negative]

theorem arm_state {time : Rat} {a : Action} {s : State} (ok : (arm time a s).failure = none) :
    (arm time a s).state =
      { s with phase := .armed, wait := .armed a (time + s.buffer.maxMillis) } := by
  by_cases long : (Binary64.ofQuotient? s.buffer.maxMillis 1000).isNone = true
  · simp only [arm, if_pos long, reduceCtorEq] at ok
  · by_cases negative : s.buffer.maxMillis < 0
    · simp only [arm, if_neg long, if_pos negative, reduceCtorEq] at ok
    · simp only [arm, if_neg long, if_neg negative]

def judge (r : Recognizer) (time : Rat) (s : State) : Outcome :=
  let search := r.candidate time s.buffer.tokens { received := s.received } r.table
  let entries := entriesAt time (.phase .evaluating :: search.2.notes.map .noted)
  let s := { s with phase := .evaluating, wait := .input }
  match search.1 with
  | .error e => ⟨s, entries, some (.regex e)⟩
  | .ok none => ⟨{ s with phase := .idle }, entries ++ entriesAt time [.phase .idle], none⟩
  | .ok (some a) => (⟨s, entries, none⟩ : Outcome).andThen (arm time a)

theorem evaluate_eq_judge (r : Recognizer) (time : Rat) (events : List Event) (s : State) :
    let buffer := s.buffer.extend events
    r.evaluate time events s =
      (⟨{ s with buffer := buffer },
        entriesAt time ((s.buffer.extendLost events).map .lost ++ [.recorded events buffer]),
        none⟩ : Outcome).andThen (r.judge time) := by
  let buffer := s.buffer.extend events
  let recorded : State := { s with buffer := buffer }
  let evaluating : State := { s with buffer := buffer, phase := .evaluating, wait := .input }
  cases search : r.candidate time buffer.tokens { received := s.received } r.table with
  | mk result snapshot =>
    rcases result with e | _ | a
    · simp only [buffer, evaluate, judge, search, Outcome.andThen_mk, ← entriesAt_append,
        List.append_assoc, List.cons_append, List.nil_append]
    · simp only [buffer, evaluate, judge, search, Outcome.andThen_mk, ← entriesAt_append,
        List.append_assoc, List.cons_append, List.nil_append]
    · have judged : r.judge time recorded = (⟨evaluating,
          entriesAt time (.phase .evaluating :: snapshot.notes.map .noted), none⟩ : Outcome).andThen
            (arm time a) := by
        simp only [judge, recorded, evaluating, search]
      dsimp only
      rw [Outcome.andThen_through judged, ← entriesAt_append, List.append_assoc]
      simp only [evaluate, buffer, evaluating, search, List.append_assoc, List.cons_append, List.nil_append]

theorem evaluate_entries (r : Recognizer) (time : Rat) (events : List Event) (s : State) :
    (r.evaluate time events s).entries = entriesAt time (r.evaluationSteps time events s) := by
  unfold evaluate evaluationSteps
  dsimp only
  cases search : r.candidate time (s.buffer.extend events).tokens
      { received := s.received } r.table with
  | mk result snapshot =>
    cases result with
    | error e => simp [entriesAt, verdict]
    | ok found =>
      cases found with
      | none => simp [entriesAt, verdict]
      | some a =>
        simp only [Outcome.andThen_of_ok, arm_entries]
        simp [entriesAt, verdict]

theorem evaluate_state {r : Recognizer} {time : Rat} {events : List Event} {s : State}
    (ok : (r.evaluate time events s).failure = none) :
    let buffer := s.buffer.extend events
    let wait := Wait.after time s.buffer.maxMillis (r.found time s.received buffer)
    (r.evaluate time events s).state = { s with buffer := buffer, wait := wait, phase := wait.phase } := by
  cases search : r.candidate time (s.buffer.extend events).tokens
      { received := s.received } r.table with
  | mk result snapshot =>
    cases result with
    | error e => simp only [evaluate, search, reduceCtorEq] at ok
    | ok found =>
      cases found with
      | none => simp only [evaluate, Recognizer.found, search, Wait.after, Wait.phase]
      | some a =>
        simp only [evaluate, search, Outcome.failure_andThen_eq_none, true_and] at ok
        simp only [evaluate, Recognizer.found, search, Outcome.andThen_of_ok, arm_state ok,
          Buffer.extend_maxMillis, Wait.after, Wait.phase]

theorem search_of_ok {r : Recognizer} {time : Rat} {events : List Event} {s : State}
    (ok : (r.evaluate time events s).failure = none) :
    let buffer := s.buffer.extend events
    (r.candidate time buffer.tokens { received := s.received } r.table).1 =
      .ok (r.found time s.received buffer) := by
  cases search : r.candidate time (s.buffer.extend events).tokens
      { received := s.received } r.table with
  | mk result snapshot =>
    cases result with
    | error e => simp only [evaluate, search, reduceCtorEq] at ok
    | ok found => simp only [search, Recognizer.found]

theorem mem_verdict {result : Except Regex.Error (Option Action)} {step : Step}
    (member : step ∈ verdict result) : (∃ p, step = .phase p) ∨ ∃ a, step = .armed a := by
  rcases result with e | _ | a <;> simp [verdict] at member
  · exact .inl ⟨_, member⟩
  · exact member.imp (⟨_, ·⟩) (⟨_, ·⟩)

theorem mem_evaluationSteps {r : Recognizer} {time : Rat} {events : List Event} {s : State}
    {step : Step} (member : step ∈ r.evaluationSteps time events s) :
    (∃ lost ∈ s.buffer.extendLost events, step = .lost lost) ∨
      step = .recorded events (s.buffer.extend events) ∨ (∃ p, step = .phase p) ∨
      (∃ note, step = .noted note) ∨ ∃ a, step = .armed a := by
  simp only [evaluationSteps, List.mem_append, List.mem_cons, List.mem_map] at member
  rcases member with ⟨lost, found, rfl⟩ | rfl | rfl | ⟨note, _, rfl⟩ | member
  · exact .inl ⟨lost, found, rfl⟩
  · exact .inr (.inl rfl)
  · exact .inr (.inr (.inl ⟨_, rfl⟩))
  · exact .inr (.inr (.inr (.inl ⟨note, rfl⟩)))
  · rcases mem_verdict member with shown | shown
    · exact .inr (.inr (.inl shown))
    · exact .inr (.inr (.inr (.inr shown)))

theorem foldl_evaluate {σ : Type} {enter : σ → Entry → σ}
    (lost : ∀ known time l, enter known ⟨time, .lost l⟩ = known)
    (noted : ∀ known time note, enter known ⟨time, .noted note⟩ = known)
    (r : Recognizer) (time : Rat) (events : List Event) (s : State) (known : σ) :
    let buffer := s.buffer.extend events
    let search := r.candidate time buffer.tokens { received := s.received } r.table
    (r.evaluate time events s).entries.foldl enter known =
      (entriesAt time (.recorded events buffer :: .phase .evaluating :: verdict search.1)).foldl enter
        known := by
  have before : ∀ e ∈ entriesAt time ((s.buffer.extendLost events).map .lost),
      ∀ known, enter known e = known := by
    intro e member known
    simp only [entriesAt, List.map_map, List.mem_map] at member
    obtain ⟨l, _, rfl⟩ := member
    exact lost known time l
  have between : ∀ notes : List Note, ∀ e ∈ entriesAt time (notes.map .noted),
      ∀ known, enter known e = known := by
    intro notes e member known
    simp only [entriesAt, List.map_map, List.mem_map] at member
    obtain ⟨note, _, rfl⟩ := member
    exact noted known time note
  dsimp only
  rw [evaluate_entries, evaluationSteps, entriesAt_append, List.foldl_append, foldl_of_idle before]
  simp only [entriesAt, List.map_cons, List.foldl_cons, List.map_append, List.foldl_append]
  exact congrArg (List.foldl enter · _) (foldl_of_idle (between _) _)

def holds (a : Action) (s : State) : Bool :=
  a.interval?.isSome && matchesEnd a.pattern s.buffer.tokens

def firingEnd (a : Action) (s : State) : List Step :=
  match a.interval?, matchesEnd a.pattern s.buffer.tokens with
  | none, _ => [.phase .idle]
  | some _, false => [.notRepeating a, .phase .idle]
  | some _, true => [.phase .repeating]

theorem firingEnd_of_holds {a : Action} {s : State} (repeats : holds a s = true) :
    firingEnd a s = [.phase .repeating] := by
  obtain ⟨interval, held⟩ := Bool.and_eq_true_iff.mp repeats
  obtain ⟨millis, same⟩ := Option.isSome_iff_exists.mp interval
  simp only [firingEnd, same, held]

theorem firingEnd_of_not_holds {a : Action} {s : State} (once : holds a s = false) :
    firingEnd a s = [.phase .idle] ∨ firingEnd a s = [.notRepeating a, .phase .idle] := by
  unfold firingEnd
  split
  · exact .inl rfl
  · exact .inr rfl
  · rename_i interval held
    rw [holds, interval, held] at once
    cases once

theorem fire_entries (time : Rat) (a : Action) (s : State) :
    (fire time a s).entries =
      entriesAt time (.phase .fired :: .firing a :: .executed a :: firingEnd a s) := by
  cases repeats : a.interval? with
  | none => simp only [fire, firingEnd, repeats]; rfl
  | some interval =>
    cases held : matchesEnd a.pattern s.buffer.tokens with
    | false => simp only [fire, firingEnd, repeats, held]; rfl
    | true =>
      by_cases long : (Binary64.ofQuotient? interval 1000).isNone = true
      · simp only [fire, firingEnd, repeats, held, if_pos long]; rfl
      · simp only [fire, firingEnd, repeats, held, if_neg long]; rfl

theorem mem_firingEnd {a : Action} {s : State} {step : Step} (member : step ∈ firingEnd a s) :
    (∃ p, step = .phase p) ∨ step = .notRepeating a := by
  unfold firingEnd at member
  split at member <;> simp at member
  · exact .inl ⟨_, member⟩
  · exact member.symm.imp (⟨_, ·⟩) id
  · exact .inl ⟨_, member⟩

theorem fire_state {time : Rat} {a : Action} {s : State} (ok : (fire time a s).failure = none) :
    let wait := if holds a s then Wait.repeating a time else .input
    (fire time a s).state = { s with
      owed := oweMore s.owed s.buffer.heldReleases
      buffer := s.buffer.clear
      wait := wait
      phase := wait.phase } := by
  cases repeats : a.interval? with
  | none => simp only [fire, holds, repeats]; rfl
  | some interval =>
    cases held : matchesEnd a.pattern s.buffer.tokens with
    | false => simp only [fire, holds, repeats, held]; rfl
    | true =>
      by_cases long : (Binary64.ofQuotient? interval 1000).isNone = true
      · simp only [fire, repeats, held, if_pos long, reduceCtorEq] at ok
      · simp only [fire, holds, repeats, held, if_neg long]; rfl

def State.Early (s : State) (time : Rat) : Prop :=
  ∀ a due, s.wait = .armed a due → time < due

theorem expire_of_early {time : Rat} {s : State} (early : s.Early time) :
    expire time s = repeatUntil time s := by
  cases wait : s.wait with
  | armed a due => simp only [expire, repeatUntil, wait, if_neg (Rat.not_le.mpr (early a due wait))]
  | _ => simp only [expire, wait]

theorem expire_due {time deadline : Rat} {a : Action} {s : State} (wait : s.wait = .armed a deadline)
    (due : deadline ≤ time) : expire time s = (fire deadline a s).andThen (repeatUntil time) := by
  simp only [expire, wait, if_pos due]

theorem expire_cases (time : Rat) (s : State) :
    s.Early time ∧ expire time s = repeatUntil time s ∨
      ∃ a due, s.wait = .armed a due ∧ due ≤ time ∧
        expire time s = (fire due a s).andThen (repeatUntil time) := by
  by_cases early : s.Early time
  · exact .inl ⟨early, expire_of_early early⟩
  · simp only [State.Early, Classical.not_forall, Rat.not_lt] at early
    obtain ⟨a, due, wait, passed⟩ := early
    exact .inr ⟨a, due, wait, passed, expire_due wait passed⟩

theorem expire_induction {p : State → Prop} {time : Rat} {s : State}
    (ok : (expire time s).failure = none) (now : p s)
    (fired : ∀ a due, (fire due a s).failure = none → p (fire due a s).state)
    (repeated : ∀ t, p t → p (repeatUntil time t).state) : p (expire time s).state := by
  rcases expire_cases time s with ⟨_, same⟩ | ⟨a, due, _, _, same⟩
  · rw [same]
    exact repeated s now
  · rw [same] at ok ⊢
    obtain ⟨first, _⟩ := Outcome.failure_andThen_eq_none.mp ok
    rw [Outcome.andThen_of_ok first]
    exact repeated _ (fired a due first)

theorem early_of_repeating {time last : Rat} {a : Action} {s : State} (wait : s.wait = .repeating a last) :
    s.Early time := by
  intro b due armed
  rw [wait] at armed
  cases armed

def repetitions (a : Action) (last : Rat) (interval count : Nat) : List Entry :=
  (List.range count).map fun (i : Nat) => ⟨last + (i + 1) * interval, .executed a⟩

theorem repeatUntil_repeating {time last : Rat} {a : Action} {s : State}
    (wait : s.wait = .repeating a last) :
    let interval := a.interval?.getD 0
    let count := dueCount last time interval
    repeatUntil time s = ⟨{ s with wait := .repeating a (last + count * interval) },
      repetitions a last interval count, none⟩ := by
  simp only [repeatUntil, wait, repetitions]

theorem mem_repeatUntil {time : Rat} {s : State} {e : Entry}
    (member : e ∈ (repeatUntil time s).entries) :
    ∃ a last, s.wait = .repeating a last ∧ e.step = .executed a := by
  cases wait : s.wait with
  | repeating a last =>
    rw [repeatUntil_repeating wait] at member
    obtain ⟨i, _, rfl⟩ := List.mem_map.mp member
    exact ⟨a, last, rfl, rfl⟩
  | _ =>
    simp only [repeatUntil, wait] at member
    cases member

def State.idle (s : State) : State :=
  { s with wait := .input, phase := .idle }

def breakSteps : Wait → List Step
  | .input => []
  | .armed a _ => [.abandoned a, .phase .idle]
  | .repeating a _ => [.stopped a, .phase .idle]

theorem mem_breakSteps {wait : Wait} {step : Step} (member : step ∈ breakSteps wait) :
    (∃ p, step = .phase p) ∨ (∃ a, step = .abandoned a) ∨ ∃ a, step = .stopped a := by
  cases wait <;> simp [breakSteps] at member
  · exact member.symm.imp (⟨_, ·⟩) (.inl ⟨_, ·⟩)
  · exact member.symm.imp (⟨_, ·⟩) (.inr ⟨_, ·⟩)

def State.holdEnded (s : State) : Bool :=
  match s.wait with
  | .repeating a _ => isReleased a s.owed
  | _ => false

theorem receive_undecodable {r : Recognizer} {time : Rat} {raw : Raw} {s : State} {e : ElapsedError}
    (decoded : s.decoder.decode raw = .error e) :
    r.receive time raw s = ⟨{ s with received := s.received + 1 },
      entriesAt time [.received s.received], some (.elapsed e)⟩ := by
  simp only [receive, decoded]

/-- The state when the events of a report have been decoded and the owed releases taken away. -/
def State.taking (s : State) (events : List Event) (decoder : Decoder) : State :=
  { s with
    received := s.received + 1
    decoder := decoder
    owed := (dropOwed s.owed events).2 }

theorem decoded_of_ok {r : Recognizer} {time : Rat} {raw : Raw} {s : State}
    (ok : (r.receive time raw s).failure = none) :
    ∃ events decoder, s.decoder.decode raw = .ok (events, decoder) := by
  cases decoded : s.decoder.decode raw with
  | error e => simp only [receive_undecodable decoded, reduceCtorEq] at ok
  | ok result => exact ⟨result.1, result.2, rfl⟩

theorem receive_decoded {r : Recognizer} {time : Rat} {raw : Raw} {s : State} {events : List Event}
    {decoder : Decoder} (decoded : s.decoder.decode raw = .ok (events, decoder)) :
    r.receive time raw s =
      (⟨s.taking events decoder, entriesAt time [.received s.received], none⟩ : Outcome).andThen
        (r.accept time (dropOwed s.owed events).1) := by
  simp only [receive, decoded, State.taking]

theorem accept_nil {r : Recognizer} {time : Rat} {s : State} (settled : s.Settled) :
    r.accept time [] s =
      if s.holdEnded then
        ⟨s.idle, entriesAt time (breakSteps s.wait), none⟩
      else ⟨s, [], none⟩ := by
  obtain ⟨wait, phase, buffer, decoder, owed, pending, received⟩ := s
  obtain ⟨empty, _⟩ := settled
  subst empty
  cases wait with
  | input => rfl
  | armed a deadline => rfl
  | repeating a last =>
    cases released : isReleased a owed with
    | false => simp [accept, State.holdEnded, released]
    | true =>
      simp [accept, State.holdEnded, released, interrupt, resume, breakSteps, State.idle]

theorem accept_batch {r : Recognizer} {time : Rat} {batch : List Event} {s : State}
    (settled : s.Settled) (arrived : batch ≠ []) :
    r.accept time batch s =
      (⟨s.idle, entriesAt time (breakSteps s.wait), none⟩ :
        Outcome).andThen (r.evaluate time batch) := by
  obtain ⟨wait, phase, buffer, decoder, owed, pending, received⟩ := s
  obtain ⟨empty, same⟩ := settled
  dsimp only at empty same
  subst empty same
  have full : batch.isEmpty = false := by simpa using arrived
  cases wait with
  | input => simp [accept, full, breakSteps, Wait.phase, State.idle, entriesAt]
  | armed a deadline => simp [accept, full, interrupt, resume, breakSteps, State.idle]
  | repeating a last => simp [accept, full, interrupt, resume, breakSteps, State.idle]

theorem receive_quiet {r : Recognizer} {time : Rat} {raw : Raw} {s : State} {events : List Event}
    {decoder : Decoder} (settled : s.Settled) (decoded : s.decoder.decode raw = .ok (events, decoder))
    (quiet : (dropOwed s.owed events).1 = []) :
    let taken := s.taking events decoder
    r.receive time raw s =
      if taken.holdEnded then
        ⟨taken.idle, entriesAt time (.received s.received :: breakSteps s.wait), none⟩
      else ⟨taken, entriesAt time [.received s.received], none⟩ := by
  have taken : (s.taking events decoder).Settled := ⟨settled.pending, settled.phase⟩
  dsimp only
  rw [receive_decoded decoded, quiet, Outcome.andThen_mk, accept_nil taken]
  cases (s.taking events decoder).holdEnded <;> rfl

theorem receive_batch {r : Recognizer} {time : Rat} {raw : Raw} {s : State} {events : List Event}
    {decoder : Decoder} (settled : s.Settled) (decoded : s.decoder.decode raw = .ok (events, decoder))
    (arrived : (dropOwed s.owed events).1 ≠ []) :
    r.receive time raw s =
      (⟨(s.taking events decoder).idle, entriesAt time (.received s.received :: breakSteps s.wait),
        none⟩ : Outcome).andThen (r.evaluate time (dropOwed s.owed events).1) := by
  have taken : (s.taking events decoder).Settled := ⟨settled.pending, settled.phase⟩
  rw [receive_decoded decoded, Outcome.andThen_mk, accept_batch taken arrived, Outcome.andThen_mk,
    Outcome.andThen_mk, ← List.append_assoc]
  rfl

theorem receive_state {r : Recognizer} {time : Rat} {raw : Raw} {s : State} {events : List Event}
    {decoder : Decoder} (settled : s.Settled) (decoded : s.decoder.decode raw = .ok (events, decoder))
    (ok : (r.receive time raw s).failure = none) :
    ∃ wait phase, (r.receive time raw s).state = { s.taking events decoder with
      buffer := s.buffer.extend (dropOwed s.owed events).1
      wait := wait
      phase := phase } := by
  by_cases quiet : (dropOwed s.owed events).1 = []
  · rw [receive_quiet settled decoded quiet, quiet]
    split
    · exact ⟨_, _, rfl⟩
    · exact ⟨_, _, rfl⟩
  · rw [receive_batch settled decoded quiet, Outcome.andThen_mk] at ok ⊢
    dsimp only at ok ⊢
    rw [evaluate_state ok]
    exact ⟨_, _, rfl⟩

theorem State.Settled.repeatUntil {s : State} (settled : s.Settled) (time : Rat) :
    (repeatUntil time s).state.Settled := by
  cases wait : s.wait with
  | repeating a last =>
    rw [repeatUntil_repeating wait]
    exact ⟨settled.pending, by rw [settled.phase, wait]; rfl⟩
  | _ =>
    simp only [Recognizer.repeatUntil, wait]
    exact settled

theorem State.Settled.fire {s : State} (settled : s.Settled) {time : Rat} {a : Action}
    (ok : (fire time a s).failure = none) : (fire time a s).state.Settled := by
  rw [fire_state ok]
  exact ⟨settled.pending, rfl⟩

theorem State.Settled.expire {s : State} (settled : s.Settled) {time : Rat}
    (ok : (expire time s).failure = none) : (expire time s).state.Settled :=
  expire_induction ok settled (fun _ _ fired => settled.fire fired) fun _ settled => settled.repeatUntil time

theorem State.Settled.idle {s : State} (settled : s.Settled) : s.idle.Settled :=
  ⟨settled.pending, rfl⟩

theorem State.Settled.evaluate {r : Recognizer} {s : State} (settled : s.Settled) {time : Rat}
    {events : List Event} (ok : (r.evaluate time events s).failure = none) :
    (r.evaluate time events s).state.Settled := by
  rw [evaluate_state ok]
  exact ⟨settled.pending, rfl⟩

theorem State.Settled.accept {r : Recognizer} {s : State} (settled : s.Settled) {time : Rat}
    {batch : List Event} (ok : (r.accept time batch s).failure = none) :
    (r.accept time batch s).state.Settled := by
  by_cases arrived : batch = []
  · rw [arrived, accept_nil settled]
    split
    · exact settled.idle
    · exact settled
  · rw [accept_batch settled arrived, Outcome.andThen_mk] at ok ⊢
    exact settled.idle.evaluate ok

theorem State.Settled.taking {s : State} (settled : s.Settled) (events : List Event)
    (decoder : Decoder) : (s.taking events decoder).Settled :=
  ⟨settled.pending, settled.phase⟩

theorem State.Settled.receive {r : Recognizer} {s : State} (settled : s.Settled) {time : Rat}
    {raw : Raw} (ok : (r.receive time raw s).failure = none) :
    (r.receive time raw s).state.Settled := by
  obtain ⟨events, decoder, decoded⟩ := decoded_of_ok ok
  rw [receive_decoded decoded, Outcome.andThen_mk] at ok ⊢
  exact (settled.taking events decoder).accept ok

end Recognizer

end Gesture
