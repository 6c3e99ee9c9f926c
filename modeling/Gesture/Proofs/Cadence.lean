import Gesture.Proofs.Repetition

namespace Gesture

namespace Recognizer

/-- The cadence of each firing in entries: an action that repeats is executed when it fires and, if its
    pattern ends the buffer, at multiples of its interval until its repetition ends. -/
def InCadence (endTime : Rat) (v : View) (acc : Account) (entries : List Entry) : Prop :=
  ∀ (before after : List Entry) (fired : Rat) (a : Action) (interval : Nat),
    entries = before ++ ⟨fired, .firing a⟩ :: after → a.interval? = some interval → 0 < interval →
    let coming := (acc.follow entries).received.drop (acc.follow before).received.length
    let ends := matchesEnd a.pattern (v.after before).buffer.tokens
    (ends = true → ∃ n, executionsUntilIdle after =
        (List.range (n + 1)).map (fun (k : Nat) => (fired + k * interval, a)) ∧
      ∀ k : Nat, 1 ≤ k → (k ≤ n ↔ fired + k * interval ≤ holdEnd a endTime coming)) ∧
    (ends = false → executionsUntilIdle after = [(fired, a)])

def Step.IsFiring : Step → Prop
  | .firing _ => True
  | _ => False

theorem not_firing_of_plain {step : Step} (plain : step.isPlain = true) : ¬step.IsFiring := by
  cases step <;> simp_all [Step.isPlain, Step.IsFiring]

section

variable {r : Recognizer} {endTime time deadline : Rat} {v : View} {acc : Account} {s : State}
  {entries rest : List Entry} {a : Action} {all : List Raw}

theorem InCadence.append (none : ∀ e ∈ entries, ¬e.step.IsFiring)
    (later : InCadence endTime (v.after entries) (acc.follow entries) rest) :
    InCadence endTime v acc (entries ++ rest) := by
  intro before after fired a interval same repeats positive
  rcases List.append_eq_append_iff.mp same with ⟨more, rfl, parts⟩ | ⟨more, rfl, parts⟩
  · rw [Account.follow_append, Account.follow_append, View.after_append]
    exact later more after fired a interval parts repeats positive
  · cases more with
    | nil =>
      rw [List.append_nil] at later none ⊢
      have here := later [] after fired a interval parts.symm repeats positive
      rwa [Account.follow_append]
    | cons e more =>
      obtain ⟨rfl, _⟩ := List.cons.inj parts
      exact (none ⟨fired, .firing a⟩ (by simp) trivial).elim

theorem InCadence.of_none (none : ∀ e ∈ entries, ¬e.step.IsFiring) :
    InCadence endTime v acc entries := by
  rintro before after fired a interval rfl
  exact (none ⟨fired, .firing a⟩ (by simp) trivial).elim

theorem receive_not_firing (settled : s.Settled) {raw : Raw}
    (ok : (r.receive time raw s).failure = none) :
    ∀ e ∈ (r.receive time raw s).entries, ¬e.step.IsFiring := by
  have broken : ∀ wait, ∀ e ∈ entriesAt time (.received s.received :: breakSteps wait),
      ¬e.step.IsFiring :=
    fun wait e member => not_firing_of_plain (receive_plain time wait s.received e member)
  obtain ⟨events, decoder, decoded⟩ := decoded_of_ok ok
  by_cases quiet : (dropOwed s.owed events).1 = []
  · rw [receive_quiet settled decoded quiet]
    split
    · exact broken s.wait
    · exact broken .input
  · rw [receive_batch settled decoded quiet, Outcome.andThen_mk]
    intro e member
    rcases List.mem_append.mp member with member | member
    · exact broken s.wait e member
    · rw [evaluate_entries] at member
      rcases mem_evaluationSteps (mem_entriesAt.mp member).2 with
        ⟨_, _, shown⟩ | shown | ⟨_, shown⟩ | ⟨_, shown⟩ | ⟨_, shown⟩
      all_goals rw [shown]; exact id

theorem expire_not_firing (early : s.Early time) : ∀ e ∈ (expire time s).entries, ¬e.step.IsFiring := by
  rw [expire_of_early early]
  intro e member
  obtain ⟨_, _, _, shown⟩ := mem_repeatUntil member
  rw [shown]
  exact id

theorem multiples_cons (a : Action) (first : Rat) (interval n : Nat) :
    (first, a) :: (List.range n).map (fun (k : Nat) => (first + (k + 1) * interval, a)) =
      (List.range (n + 1)).map (fun (k : Nat) => (first + k * interval, a)) := by
  rw [List.range_succ_eq_map, List.map_cons, List.map_map]
  simp [Function.comp_def]

theorem executions_fire {arrivals : List Arrival}
    (balanced : Balanced acc s [] (arrivals.map (·.raw)) all) (inTime : InTime arrivals endTime)
    (fired : (fire time a s).failure = none)
    (ok : (r.onward endTime arrivals (fire time a s).state).failure = none) {interval : Nat}
    (repeats : a.interval? = some interval) (positive : 0 < interval) :
    let later := (r.onward endTime arrivals (fire time a s).state).entries
    let coming := (acc.follow ((fire time a s).entries ++ later)).received.drop acc.received.length
    let executed := executionsUntilIdle (entriesAt time (.executed a :: firingEnd a s) ++ later)
    (matchesEnd a.pattern s.buffer.tokens = true →
      ∃ n, executed = (List.range (n + 1)).map (fun (k : Nat) => (time + k * interval, a)) ∧
        ∀ k : Nat, 1 ≤ k → (k ≤ n ↔ time + k * interval ≤ holdEnd a endTime coming)) ∧
    (matchesEnd a.pattern s.buffer.tokens = false → executed = [(time, a)]) := by
  constructor
  · intro ends
    have holding : holds a s = true := by rw [holds, repeats, ends]; rfl
    have wait := fire_wait fired
    rw [holding, if_pos rfl] at wait
    have owes : ∀ t ∈ a.holdReleases, t ∈ (fire time a s).state.owed := by
      intro t member
      rw [fire_state fired]
      exact mem_oweMore.mpr (.inr (holdReleases_held ends t member))
    obtain ⟨coming, n, received, _, executed, due⟩ :=
      onward_repeating (balanced.fire fired) inTime wait repeats positive owes ok
    rw [Account.follow_append, received, follow_fire, List.drop_left]
    refine ⟨n, ?_, due⟩
    rw [firingEnd_of_holds holding, ← multiples_cons, ← executed]
    rfl
  · intro differs
    have once : holds a s = false := by rw [holds, differs, Bool.and_false]
    rcases firingEnd_of_not_holds once with shown | shown <;> rw [shown] <;> rfl

theorem inCadence_fire {arrivals : List Arrival} (fits : v.Fits s)
    (balanced : Balanced acc s [] (arrivals.map (·.raw)) all) (inTime : InTime arrivals endTime)
    (fired : (fire time a s).failure = none)
    (ok : (r.onward endTime arrivals (fire time a s).state).failure = none)
    (later : InCadence endTime (v.after (fire time a s).entries) (acc.follow (fire time a s).entries)
      (r.onward endTime arrivals (fire time a s).state).entries) :
    InCadence endTime v acc
      ((fire time a s).entries ++ (r.onward endTime arrivals (fire time a s).state).entries) := by
  have silent : ∀ e ∈ entriesAt time (.executed a :: firingEnd a s), ¬e.step.IsFiring := by
    intro e member
    rcases List.mem_cons.mp (mem_entriesAt.mp member).2 with shown | shown
    on_goal 2 => rcases mem_firingEnd shown with ⟨_, shown⟩ | shown
    all_goals rw [shown]; exact id
  have parts : (fire time a s).entries =
      ⟨time, .phase .fired⟩ :: ⟨time, .firing a⟩ :: entriesAt time (.executed a :: firingEnd a s) :=
    fire_entries time a s
  intro before after instant action interval same repeats positive
  rw [parts] at same
  -- The firing that is asked about is this one, or one in the later part of the run.
  rcases before with _ | ⟨first, _ | ⟨second, before⟩⟩
  · cases same
  · simp only [List.cons_append, List.nil_append, List.cons.injEq, Entry.mk.injEq,
      Step.firing.injEq] at same
    obtain ⟨rfl, ⟨rfl, rfl⟩, rfl⟩ := same
    have buffer : (v.after [⟨time, .phase .fired⟩]).buffer = s.buffer := fits.buffer
    rw [buffer]
    exact executions_fire balanced inTime fired ok repeats positive
  · simp only [List.cons_append, List.cons.injEq] at same
    obtain ⟨rfl, rfl, same⟩ := same
    rw [parts] at later ⊢
    have next : InCadence endTime (v.after [⟨time, .phase .fired⟩, ⟨time, .firing a⟩])
        (acc.follow [⟨time, .phase .fired⟩, ⟨time, .firing a⟩])
        (entriesAt time (.executed a :: firingEnd a s) ++
          (r.onward endTime arrivals (fire time a s).state).entries) :=
      InCadence.append silent later
    exact next before after instant action interval same repeats positive

theorem InCadence.of_early {arrivals : List Arrival} (fits : v.Fits s)
    (balanced : Balanced acc s [] (arrivals.map (·.raw)) all) (inTime : InTime arrivals endTime)
    (ok : (r.onward endTime arrivals s).failure = none)
    (early : ∀ {v acc s}, v.Fits s → Balanced acc s [] (arrivals.map (·.raw)) all →
      (r.onward endTime arrivals s).failure = none → s.Early (nextTime endTime arrivals) →
      InCadence endTime v acc (r.onward endTime arrivals s).entries) :
    InCadence endTime v acc (r.onward endTime arrivals s).entries := by
  rcases expire_cases (nextTime endTime arrivals) s with ⟨late, _⟩ | ⟨a, deadline, wait, due, _⟩
  · exact early fits balanced ok late
  · rw [onward_due r wait due] at ok ⊢
    obtain ⟨fired, ok⟩ := Outcome.failure_andThen_eq_none.mp ok
    rw [Outcome.andThen_of_ok fired]
    have rest := early (fits.fire fired) (balanced.fire fired) ok (fire_early fired _)
    exact inCadence_fire fits balanced inTime fired ok rest

theorem onward_inCadence {arrivals : List Arrival} (fits : v.Fits s)
    (balanced : Balanced acc s [] (arrivals.map (·.raw)) all) (inTime : InTime arrivals endTime)
    (ok : (r.onward endTime arrivals s).failure = none) :
    InCadence endTime v acc (r.onward endTime arrivals s).entries := by
  induction arrivals generalizing v acc s with
  | nil =>
    refine InCadence.of_early fits balanced inTime ok fun _ _ _ early => ?_
    exact InCadence.of_none (expire_not_firing early)
  | cons x rest ih =>
    refine InCadence.of_early fits balanced inTime ok ?_
    intro v acc s fits balanced ok early
    obtain ⟨waited, taken, ok, parts⟩ := onward_cons_of_ok ok
    have fits' := fits.expire waited
    have balanced' := balanced.expire waited
    rw [parts]
    refine InCadence.append (expire_not_firing early) (InCadence.append ?_ ?_)
    · exact receive_not_firing balanced'.settled taken
    · exact ih (fits'.receive balanced'.settled taken) (balanced'.receive taken) inTime.tail ok

theorem InCadence.closing {closing : List Entry} (cadence : InCadence endTime v acc entries)
    (silent : ∀ e ∈ closing, ¬e.step.IsFiring ∧ e.execution? = none)
    (idle : (acc.follow entries).follow closing = acc.follow entries) :
    InCadence endTime v acc (entries ++ closing) := by
  intro before after fired a interval same repeats positive
  -- The end has no firing in it, and what follows an earlier one only goes on into the end.
  rcases List.append_eq_append_iff.mp same with ⟨more, rfl, parts⟩ | ⟨more, rfl, parts⟩
  · have last : (⟨fired, .firing a⟩ : Entry) ∈ closing := by simp [parts]
    exact ((silent _ last).1 trivial).elim
  · cases more with
    | nil =>
      have last : (⟨fired, .firing a⟩ : Entry) ∈ closing := by
        rw [List.nil_append] at parts
        exact parts ▸ List.mem_cons_self
      exact ((silent _ last).1 trivial).elim
    | cons e more =>
      obtain ⟨rfl, rfl⟩ := List.cons.inj parts
      have same := executionsUntilIdle_append (fun e member => (silent e member).2) more
      rw [Account.follow_append, idle, List.append_eq, same]
      exact cadence before more fired a interval rfl repeats positive

end

/-- From the firing of an action that repeats until the recognizer is idle, the action is executed when
    it fires and, if its pattern ends the buffer then, at whole multiples of its interval after that,
    until its repetition ends: when a report comes that brings events to record, or the owed release of
    a button that the pattern leaves down, or when the input ends. Other reports neither end the
    repetition nor move it. If the pattern does not end the buffer, it is executed just once. -/
theorem repeats_in_cadence (r : Recognizer) (buffer : Buffer) (arrivals : List Arrival) (endTime : Rat)
    (inTime : InTime arrivals endTime) (ok : (r.run buffer arrivals endTime).failure = none) :
    let entries := (r.run buffer arrivals endTime).entries
    let account := Account.opened buffer (arrivals.map (·.raw))
    (account.follow entries).received.map (·.time) = arrivals.map (·.time) ∧
      ∀ (before after : List Entry) (fired : Rat) (a : Action) (interval : Nat),
        entries = before ++ ⟨fired, .firing a⟩ :: after → a.interval? = some interval → 0 < interval →
        let coming := (account.follow entries).received.drop (account.follow before).received.length
        let ended := holdEnd a endTime coming
        let ends := matchesEnd a.pattern ((View.opened buffer).after before).buffer.tokens
        (ends = true → ∃ n, executionsUntilIdle after =
            (List.range (n + 1)).map (fun (k : Nat) => (fired + k * interval, a)) ∧
          ∀ k : Nat, 1 ≤ k → fired + k * interval ≠ ended →
            (k ≤ n ↔ fired + k * interval < ended)) ∧
        (ends = false → executionsUntilIdle after = [(fired, a)]) := by
  dsimp only
  obtain ⟨stood, closed⟩ := run_of_ok ok
  have fits := View.fits_opened buffer
  have balanced := balanced_opened buffer (arrivals.map (·.raw))
  have cadence : InCadence endTime (.opened buffer) (.opened buffer (arrivals.map (·.raw)))
      (r.run buffer arrivals endTime).entries := by
    rw [closed, Outcome.andThen_of_ok stood]
    refine InCadence.closing (onward_inCadence fits balanced inTime stood) ?_ rfl
    simp [entriesAt, Step.IsFiring, Entry.execution?]
  constructor
  · obtain ⟨coming, received, arrive⟩ := onward_received balanced stood
    rw [follow_run ok, standing_eq_onward, received]
    exact arrive
  · intro before after fired a interval same repeats positive
    obtain ⟨repeated, once⟩ := cadence before after fired a interval same repeats positive
    refine ⟨fun ends => ?_, once⟩
    obtain ⟨n, executed, due⟩ := repeated ends
    refine ⟨n, executed, fun k some apart => ?_⟩
    rw [due k some]
    exact ⟨fun within => lt_of_le_of_ne within apart, le_of_lt⟩

/-- The held key repeats its action from 350 on, until the other key is pressed at 600. -/
theorem repeats_in_cadence_lateRelease :
    let o := volumeKeys.run {} lateRelease 5000
    let louder := volumeKeys.table[1]
    InTime lateRelease 5000 ∧ o.failure = none ∧
      ∃ before after, o.entries = before ++ ⟨350, .firing louder⟩ :: after ∧
        executionsUntilIdle after = [((350 : Rat), louder), (450, louder), (550, louder)] ∧
        ∃ n, executionsUntilIdle after =
            (List.range (n + 1)).map (fun (k : Nat) => ((350 : Rat) + k * (100 : Nat), louder)) ∧
          ∀ k : Nat, 1 ≤ k → (350 : Rat) + k * (100 : Nat) ≠ 600 →
            (k ≤ n ↔ (350 : Rat) + k * (100 : Nat) < 600) := by
  have inTime : InTime lateRelease 5000 := by decide +kernel
  have ok : (volumeKeys.run {} lateRelease 5000).failure = none := by decide +kernel
  have repeats : volumeKeys.table[1].interval? = some 100 := by decide +kernel
  have parts : (volumeKeys.run {} lateRelease 5000).entries =
      (volumeKeys.run {} lateRelease 5000).entries.take 6 ++ ⟨350, .firing volumeKeys.table[1]⟩ ::
        (volumeKeys.run {} lateRelease 5000).entries.drop 7 := by decide +kernel
  have ends : matchesEnd volumeKeys.table[1].pattern ((View.opened {}).after
      ((volumeKeys.run {} lateRelease 5000).entries.take 6)).buffer.tokens = true := by decide +kernel
  have ended : holdEnd volumeKeys.table[1] 5000 (((Account.opened {} (lateRelease.map (·.raw))).follow
      (volumeKeys.run {} lateRelease 5000).entries).received.drop
        ((Account.opened {} (lateRelease.map (·.raw))).follow
          ((volumeKeys.run {} lateRelease 5000).entries.take 6)).received.length) = 600 := by
    decide +kernel
  have executed : executionsUntilIdle ((volumeKeys.run {} lateRelease 5000).entries.drop 7) =
      [((350 : Rat), volumeKeys.table[1]), (450, volumeKeys.table[1]), (550, volumeKeys.table[1])] := by
    decide +kernel
  obtain ⟨_, all⟩ := repeats_in_cadence volumeKeys {} lateRelease 5000 inTime ok
  have cadence := (all _ _ _ _ 100 parts repeats (by decide)).1 ends
  rw [ended] at cadence
  exact ⟨inTime, ok, _, _, parts, executed, cadence⟩

end Recognizer

end Gesture
