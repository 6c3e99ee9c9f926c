import Gesture.Proofs.Compiled
import Gesture.Proofs.Schedule

namespace Gesture

def lastStamp (reports : List Raw) : Option Binary64 :=
  (reports.filter fun raw => (Button.ofIdentifier? raw.identifier).isSome).getLast?.map (·.timestamp)

/-- The milliseconds, not yet rounded, from the report of a button before it to one of a button. -/
def gap? (reports : List Raw) (index : Nat) : Option Binary64 := do
  let raw ← reports[index]?
  let _ ← Button.ofIdentifier? raw.identifier
  let last ← lastStamp (reports.take index)
  return (raw.timestamp - last) * Binary64.ofInt 1000

theorem lastStamp_append (reports : List Raw) (raw : Raw) :
    lastStamp (reports ++ [raw]) =
      if (Button.ofIdentifier? raw.identifier).isSome then some raw.timestamp else lastStamp reports := by
  unfold lastStamp
  rw [List.filter_append]
  split
  · rename_i known
    simp [known]
  · rename_i unknown
    simp [unknown]

def Binary64.flaw? : Binary64 → Option ElapsedError
  | .finite _ _ => none
  | .infinite _ => some .infinite
  | .nan => some .notANumber

theorem elapsedBetween_eq_error {earlier later : Binary64} {e : ElapsedError} :
    elapsedBetween earlier later = .error e ↔
      ((later - earlier) * Binary64.ofInt 1000).flaw? = some e := by
  unfold elapsedBetween
  generalize (later - earlier) * Binary64.ofInt 1000 = exact
  cases exact <;> simp [Binary64.round?, Binary64.flaw?]

def Decoder.Follows (d : Decoder) (reports : List Raw) : Prop :=
  d.last = lastStamp reports

theorem Decoder.Follows.decode {d : Decoder} {before : List Raw} (follows : d.Follows before) {raw : Raw}
    {events : List Event} {later : Decoder} (decoded : d.decode raw = .ok (events, later)) :
    later.Follows (before ++ [raw]) := by
  unfold Decoder.Follows
  rw [lastStamp_append]
  unfold Decoder.decode at decoded
  cases known : Button.ofIdentifier? raw.identifier with
  | none =>
    simp only [known] at decoded
    cases decoded
    exact follows
  | some b =>
    simp only [known] at decoded
    obtain ⟨_, _, same⟩ := map_eq_ok decoded
    cases same
    rfl

theorem Decoder.Follows.decode_eq_error {d : Decoder} {before : List Raw} (follows : d.Follows before)
    (raw : Raw) (after : List Raw) (e : ElapsedError) :
    d.decode raw = .error e ↔
      (gap? (before ++ raw :: after) before.length).bind Binary64.flaw? = some e := by
  have place : (before ++ raw :: after)[before.length]? = some raw := by simp
  unfold Decoder.decode gap?
  rw [place, List.take_left, ← follows]
  cases known : Button.ofIdentifier? raw.identifier with
  | none => simp [known]
  | some b =>
    cases last : d.last with
    | none => simp [Decoder.elapsed, last, Except.map]
    | some earlier => simp [known, Decoder.elapsed, last, map_eq_error, elapsedBetween_eq_error]

namespace Recognizer

/-- What entries have told: how many reports have been received, and which action fired last. -/
structure Past where
  received : Nat := 0
  fired : Option Action := none
  deriving DecidableEq, Repr

namespace Past

def enter (p : Past) (e : Entry) : Past :=
  match e.step with
  | .received _ => { p with received := p.received + 1 }
  | .firing a => { p with fired := some a }
  | _ => p

def after (p : Past) (entries : List Entry) : Past :=
  entries.foldl enter p

theorem after_append (p : Past) (left right : List Entry) :
    p.after (left ++ right) = (p.after left).after right :=
  List.foldl_append

end Past

/-- The entries at which a run stops, and why it does: a report that comes an infinite time after another,
    or no time at all; a search that asks for the Android layer, whose expression does not compile; an
    action armed when the silence to wait for is too long or negative; and a repetition at too long
    an interval. -/
inductive Stops (r : Recognizer) (maxMillis : Int) (reports : List Raw) (past : Past) :
    Entry → Failure → Prop where
  | elapsed {time : Rat} {index : Nat} {millis : Binary64} {e : ElapsedError}
      (gap : gap? reports index = some millis) (flaw : millis.flaw? = some e) :
      Stops r maxMillis reports past ⟨time, .received index⟩ (.elapsed e)
  | regex {time : Rat} {events : List Event} {buffer : Buffer} {e : Regex.Error}
      (asks : r.AsksForLayer time buffer.tokens { received := past.received } r.table)
      (invalid : Regex.compile r.android = .error e) :
      Stops r maxMillis reports past ⟨time, .recorded events buffer⟩ (.regex e)
  | waitTooLong {time : Rat} {a : Action} (long : Binary64.ofQuotient? maxMillis 1000 = none) :
      Stops r maxMillis reports past ⟨time, .armed a⟩ .waitTooLong
  | waitNegative {time : Rat} {a : Action} (fits : (Binary64.ofQuotient? maxMillis 1000).isSome)
      (negative : maxMillis < 0) : Stops r maxMillis reports past ⟨time, .armed a⟩ .waitNegative
  | intervalTooLong {time : Rat} {a : Action} {interval : Nat} (fired : past.fired = some a)
      (repeats : a.interval? = some interval) (long : Binary64.ofQuotient? interval 1000 = none) :
      Stops r maxMillis reports past ⟨time, .phase .repeating⟩ .intervalTooLong

/-- Whether some of the entries, with what came before it, stops a run. -/
def Shows (r : Recognizer) (maxMillis : Int) (reports : List Raw) (past : Past) (entries : List Entry)
    (f : Failure) : Prop :=
  ∃ before e after, entries = before ++ e :: after ∧ r.Stops maxMillis reports (past.after before) e f

section

variable {r : Recognizer} {maxMillis : Int} {reports : List Raw} {past : Past} {f : Failure} {time : Rat}

theorem not_shows_nil : ¬r.Shows maxMillis reports past [] f := by
  rintro ⟨before, e, after, same, _⟩
  cases before <;> cases same

theorem shows_cons {e : Entry} {rest : List Entry} :
    r.Shows maxMillis reports past (e :: rest) f ↔
      r.Stops maxMillis reports past e f ∨ r.Shows maxMillis reports (past.enter e) rest f := by
  constructor
  · rintro ⟨before, e', after, same, stops⟩
    cases before with
    | nil =>
      cases same
      exact .inl stops
    | cons first before =>
      cases same
      exact .inr ⟨before, e', after, rfl, stops⟩
  · rintro (stops | ⟨before, e', after, rfl, stops⟩)
    · exact ⟨[], e, rest, rfl, stops⟩
    · exact ⟨e :: before, e', after, rfl, stops⟩

theorem shows_append {left right : List Entry} :
    r.Shows maxMillis reports past (left ++ right) f ↔
      r.Shows maxMillis reports past left f ∨ r.Shows maxMillis reports (past.after left) right f := by
  induction left generalizing past with
  | nil => simp [not_shows_nil, Past.after]
  | cons e rest ih => simp only [List.cons_append, shows_cons, ih, or_assoc, Past.after, List.foldl_cons]

def Step.isQuiet : Step → Bool
  | .received _ | .recorded _ _ | .armed _ | .firing _ => false
  | .phase p => p != .repeating
  | _ => true

theorem enter_of_quiet {e : Entry} (quiet : e.step.isQuiet = true) (past : Past) :
    past.enter e = past := by
  obtain ⟨instant, step⟩ := e
  cases step <;> first | rfl | cases quiet

theorem not_stops_of_quiet {e : Entry} (quiet : e.step.isQuiet = true) :
    ¬r.Stops maxMillis reports past e f := by
  rintro ⟨⟩ <;> cases quiet

theorem shows_cons_of_quiet {e : Entry} {rest : List Entry} (quiet : e.step.isQuiet = true) :
    r.Shows maxMillis reports past (e :: rest) f ↔ r.Shows maxMillis reports past rest f := by
  rw [shows_cons, enter_of_quiet quiet, or_iff_right (not_stops_of_quiet quiet)]

theorem shows_append_of_quiet {left right : List Entry} (quiet : ∀ e ∈ left, e.step.isQuiet = true) :
    r.Shows maxMillis reports past (left ++ right) f ↔ r.Shows maxMillis reports past right f := by
  induction left with
  | nil => rfl
  | cons e rest ih =>
    obtain ⟨first, later⟩ := List.forall_mem_cons.mp quiet
    rw [List.cons_append, shows_cons_of_quiet first, ih later]

theorem not_shows_of_quiet {entries : List Entry} (quiet : ∀ e ∈ entries, e.step.isQuiet = true) :
    ¬r.Shows maxMillis reports past entries f := by
  rw [← List.append_nil entries, shows_append_of_quiet quiet]
  exact not_shows_nil

theorem after_of_quiet {entries : List Entry} (quiet : ∀ e ∈ entries, e.step.isQuiet = true) (past : Past) :
    past.after entries = past :=
  foldl_of_idle (fun e member => enter_of_quiet (quiet e member)) past

theorem arm_failure {a : Action} {s : State} (silence : s.buffer.maxMillis = maxMillis) :
    (arm time a s).failure = some f ↔ r.Stops maxMillis reports past ⟨time, .armed a⟩ f := by
  subst silence
  have known : r.Stops s.buffer.maxMillis reports past ⟨time, .armed a⟩ f ↔
      Binary64.ofQuotient? s.buffer.maxMillis 1000 = none ∧ f = .waitTooLong ∨
        (Binary64.ofQuotient? s.buffer.maxMillis 1000).isSome ∧ s.buffer.maxMillis < 0 ∧
          f = .waitNegative := by
    constructor
    · rintro (_ | _ | long | ⟨fits, negative⟩)
      · exact .inl ⟨long, rfl⟩
      · exact .inr ⟨fits, negative, rfl⟩
    · rintro (⟨long, rfl⟩ | ⟨fits, negative, rfl⟩)
      · exact .waitTooLong long
      · exact .waitNegative fits negative
  rw [known, arm]
  dsimp only
  cases Binary64.ofQuotient? s.buffer.maxMillis 1000 with
  | none => simp [eq_comm]
  | some seconds =>
    by_cases negative : s.buffer.maxMillis < 0
    · simp [negative, eq_comm]
    · simp [negative]

theorem quiet_steps {steps : List Step} (quiet : ∀ step ∈ steps, step.isQuiet = true) :
    ∀ e ∈ entriesAt time steps, e.step.isQuiet = true :=
  fun _ member => quiet _ (mem_entriesAt.mp member).2

theorem quiet_map {α : Type} {make : α → Step} (quiet : ∀ a, (make a).isQuiet = true) (xs : List α) :
    ∀ e ∈ entriesAt time (xs.map make), e.step.isQuiet = true :=
  quiet_steps (List.forall_mem_map.mpr fun a _ => quiet a)

theorem stops_recorded (usable : Usable r.android r.table) {events : List Event} {buffer : Buffer} :
    r.Stops maxMillis reports past ⟨time, .recorded events buffer⟩ f ↔
      ∃ e, (r.candidate time buffer.tokens { received := past.received } r.table).1 = .error e ∧
        f = .regex e := by
  simp only [candidate_eq_error usable]
  constructor
  · rintro (_ | ⟨asks, invalid⟩)
    exact ⟨_, ⟨asks, invalid⟩, rfl⟩
  · rintro ⟨e, ⟨asks, invalid⟩, rfl⟩
    exact .regex asks invalid

theorem shows_verdict {result : Except Regex.Error (Option Action)} :
    r.Shows maxMillis reports past (entriesAt time (verdict result)) f ↔
      ∃ a, result = .ok (some a) ∧ r.Stops maxMillis reports past ⟨time, .armed a⟩ f := by
  rcases result with e | _ | a
  · simp [verdict, entriesAt, not_shows_nil]
  · simp only [verdict, entriesAt, List.map_cons, List.map_nil]
    rw [shows_cons_of_quiet rfl]
    simp [not_shows_nil]
  · simp only [verdict, entriesAt, List.map_cons, List.map_nil]
    rw [shows_cons_of_quiet rfl, shows_cons]
    simp [not_shows_nil]

theorem failure_evaluate (r : Recognizer) (time : Rat) (events : List Event) (s : State) (f : Failure) :
    let buffer := s.buffer.extend events
    let search := r.candidate time buffer.tokens { received := s.received } r.table
    (r.evaluate time events s).failure = some f ↔ (∃ e, search.1 = .error e ∧ f = .regex e) ∨
      ∃ a, search.1 = .ok (some a) ∧
        (arm time a { s with buffer := buffer, phase := .evaluating, wait := .input }).failure = some f := by
  -- Arming is named, lest its numbers be computed.
  obtain ⟨arming, same⟩ : ∃ arming, arming = arm time := ⟨_, rfl⟩
  unfold evaluate
  rw [← same]
  dsimp only
  rcases r.candidate time (s.buffer.extend events).tokens { received := s.received } r.table with
    ⟨e | _ | a, _⟩
  · simp [eq_comm]
  · simp
  · simp

theorem evaluate_failure (usable : Usable r.android r.table) {events : List Event} {s : State}
    (silence : s.buffer.maxMillis = maxMillis) (received : past.received = s.received) :
    (r.evaluate time events s).failure = some f ↔
      r.Shows maxMillis reports past (r.evaluate time events s).entries f := by
  have shown : (r.evaluate time events s).entries =
      let buffer := s.buffer.extend events
      let search := r.candidate time buffer.tokens { received := s.received } r.table
      entriesAt time ((s.buffer.extendLost events).map .lost) ++
        ⟨time, .recorded events buffer⟩ :: ⟨time, .phase .evaluating⟩ ::
          (entriesAt time (search.2.notes.map .noted) ++ entriesAt time (verdict search.1)) := by
    simp only [evaluate_entries, evaluationSteps, entriesAt, List.map_append, List.map_cons]
  have same : past.enter ⟨time, .recorded events (s.buffer.extend events)⟩ = past := rfl
  have silent := (s.buffer.extend_maxMillis events).trans silence
  have failed := failure_evaluate r time events s f
  dsimp only at failed
  rw [failed, shown, shows_append_of_quiet (quiet_map (fun _ => rfl) _), shows_cons,
    stops_recorded usable, same, shows_cons_of_quiet rfl, shows_append_of_quiet (quiet_map (fun _ => rfl) _),
    shows_verdict, received]
  exact or_congr_right (exists_congr fun _ => and_congr_right fun _ => arm_failure silent)

def Told (r : Recognizer) (maxMillis : Int) (reports : List Raw) (past : Past) (o : Outcome) : Prop :=
  ∀ f, o.failure = some f ↔ r.Shows maxMillis reports past o.entries f

theorem told_of_quiet {o : Outcome} (ok : o.failure = none) (quiet : ∀ e ∈ o.entries, e.step.isQuiet = true) :
    r.Told maxMillis reports past o := by
  intro f
  simp [ok, not_shows_of_quiet quiet]

theorem told_nothing (s : State) : r.Told maxMillis reports past ⟨s, [], none⟩ :=
  told_of_quiet rfl fun _ member => absurd member List.not_mem_nil

theorem Told.andThen {o : Outcome} {next : State → Outcome} (told : r.Told maxMillis reports past o)
    (later : o.failure = none → r.Told maxMillis reports (past.after o.entries) (next o.state)) :
    r.Told maxMillis reports past (o.andThen next) := by
  intro f
  cases failed : o.failure with
  | some g =>
    rw [Outcome.andThen_of_failed failed]
    exact told f
  | none =>
    have nothing : ¬r.Shows maxMillis reports past o.entries f := by simp [← told f, failed]
    rw [Outcome.andThen_of_ok failed, shows_append, or_iff_right nothing]
    exact later failed f

theorem quiet_breakSteps (time : Rat) (wait : Wait) :
    ∀ e ∈ entriesAt time (breakSteps wait), e.step.isQuiet = true := by
  apply quiet_steps
  cases wait <;> simp [breakSteps, Step.isQuiet]

theorem accept_told (usable : Usable r.android r.table) {batch : List Event} {s : State} (settled : s.Settled)
    (silence : s.buffer.maxMillis = maxMillis) (received : past.received = s.received) :
    r.Told maxMillis reports past (r.accept time batch s) := by
  have broken := quiet_breakSteps time s.wait
  by_cases arrived : batch = []
  · rw [arrived, accept_nil settled]
    split
    · exact told_of_quiet rfl broken
    · exact told_nothing s
  · rw [accept_batch settled arrived]
    refine (told_of_quiet rfl broken).andThen fun _ f => ?_
    rw [after_of_quiet broken]
    exact evaluate_failure usable silence received

theorem stops_repeating {a : Action} :
    r.Stops maxMillis reports { past with fired := some a } ⟨time, .phase .repeating⟩ f ↔
      ∃ interval, a.interval? = some interval ∧ Binary64.ofQuotient? interval 1000 = none ∧
        f = .intervalTooLong := by
  constructor
  · rintro (_ | _ | _ | _ | ⟨fired, repeats, long⟩)
    cases fired
    exact ⟨_, repeats, long, rfl⟩
  · rintro ⟨interval, repeats, long, rfl⟩
    exact .intervalTooLong rfl repeats long

theorem failure_fire {a : Action} {s : State} :
    (fire time a s).failure = some f ↔ holds a s = true ∧ ∃ interval, a.interval? = some interval ∧
      Binary64.ofQuotient? interval 1000 = none ∧ f = .intervalTooLong := by
  cases repeats : a.interval? with
  | none => simp [fire, holds, repeats]
  | some interval =>
    cases held : matchesEnd a.pattern s.buffer.tokens with
    | false => simp [fire, holds, repeats, held]
    | true =>
      cases long : Binary64.ofQuotient? interval 1000 with
      | none => simp [fire, holds, repeats, held, long, eq_comm]
      | some seconds => simp [fire, holds, repeats, held, long]

theorem fire_told {a : Action} {s : State} : r.Told maxMillis reports past (fire time a s) := by
  intro f
  have firing : ¬r.Stops maxMillis reports past ⟨time, .firing a⟩ f := by rintro ⟨⟩
  have fired : past.enter ⟨time, .firing a⟩ = { past with fired := some a } := rfl
  rw [failure_fire, fire_entries, entriesAt]
  simp only [List.map_cons]
  rw [shows_cons_of_quiet rfl, shows_cons, or_iff_right firing, fired, shows_cons_of_quiet rfl]
  cases repeats : holds a s with
  | true => simp [firingEnd_of_holds repeats, shows_cons, not_shows_nil, stops_repeating]
  | false =>
    have quiet : ∀ e ∈ entriesAt time (firingEnd a s), e.step.isQuiet = true := by
      apply quiet_steps
      rcases firingEnd_of_not_holds repeats with same | same <;> rw [same] <;> simp [Step.isQuiet]
    simp only [Bool.false_eq_true, false_and, false_iff]
    exact not_shows_of_quiet quiet

structure Stands (maxMillis : Int) (before : List Raw) (past : Past) (s : State) : Prop where
  settled : s.Settled
  silence : s.buffer.maxMillis = maxMillis
  told : past.received = before.length
  received : s.received = before.length
  follows : s.decoder.Follows before

theorem receive_told (usable : Usable r.android r.table) {before : List Raw} {s : State}
    (stands : Stands maxMillis before past s) (raw : Raw) (after : List Raw) :
    r.Told maxMillis (before ++ raw :: after) past (r.receive time raw s) := by
  obtain ⟨settled, silence, told, received, follows⟩ := stands
  -- The entry of the report stops the run just if the report cannot be decoded.
  have stops : ∀ f, r.Stops maxMillis (before ++ raw :: after) past ⟨time, .received s.received⟩ f ↔
      ∃ e, s.decoder.decode raw = .error e ∧ f = .elapsed e := by
    intro f
    simp only [follows.decode_eq_error raw after, Option.bind_eq_some_iff, ← received]
    constructor
    · rintro (⟨gap, flaw⟩ | _)
      exact ⟨_, ⟨_, gap, flaw⟩, rfl⟩
    · rintro ⟨e, ⟨millis, gap, flaw⟩, rfl⟩
      exact .elapsed gap flaw
  cases decoded : s.decoder.decode raw with
  | error e =>
    intro f
    rw [receive_undecodable decoded]
    simp [entriesAt, shows_cons, not_shows_nil, stops, decoded, eq_comm]
  | ok result =>
    obtain ⟨events, decoder⟩ := result
    rw [receive_decoded decoded]
    refine Told.andThen ?_ fun _ => ?_
    · intro f
      simp [entriesAt, shows_cons, not_shows_nil, stops, decoded]
    · have told := congrArg (· + 1) (told.trans received.symm)
      exact accept_told usable (settled.taking events decoder) silence told

theorem received_of_none {entries : List Entry} (none : ∀ e ∈ entries, ∀ i, e.step ≠ .received i)
    (past : Past) : (past.after entries).received = past.received := by
  induction entries generalizing past with
  | nil => rfl
  | cons e rest ih =>
    obtain ⟨first, later⟩ := List.forall_mem_cons.mp none
    rw [Past.after, List.foldl_cons]
    refine (ih later _).trans ?_
    obtain ⟨instant, step⟩ := e
    cases step with
    | received i => exact absurd rfl (first i)
    | _ => rfl

theorem not_received_of_quiet {e : Entry} (quiet : e.step.isQuiet = true) (i : Nat) :
    e.step ≠ .received i := by
  intro same
  rw [same] at quiet
  cases quiet

theorem not_received_accept (r : Recognizer) (time : Rat) {s : State} (settled : s.Settled)
    (batch : List Event) : ∀ e ∈ (r.accept time batch s).entries, ∀ i, e.step ≠ .received i := by
  intro e member i
  have broken := quiet_breakSteps time s.wait
  by_cases arrived : batch = []
  · rw [arrived, accept_nil settled] at member
    split at member
    · exact not_received_of_quiet (broken e member) i
    · cases member
  · rw [accept_batch settled arrived, Outcome.andThen_mk, evaluate_entries] at member
    rcases List.mem_append.mp member with member | member
    · exact not_received_of_quiet (broken e member) i
    · intro same
      have shown := mem_evaluationSteps (mem_entriesAt.mp member).2
      simp [same] at shown

theorem Stands.receive {before : List Raw} {raw : Raw} {s : State} (stands : Stands maxMillis before past s)
    (ok : (r.receive time raw s).failure = none) :
    Stands maxMillis (before ++ [raw]) (past.after (r.receive time raw s).entries)
      (r.receive time raw s).state := by
  obtain ⟨settled, silence, told, received, follows⟩ := stands
  obtain ⟨events, decoder, decoded⟩ := decoded_of_ok ok
  refine ⟨settled.receive ok, ?silence, ?told, ?received, ?follows⟩
  case told =>
    have later := not_received_accept r time (settled.taking events decoder) (dropOwed s.owed events).1
    rw [receive_decoded decoded, Outcome.andThen_mk, Past.after_append, received_of_none later,
      List.length_append, ← told]
    rfl
  all_goals
    obtain ⟨wait, phase, same⟩ := receive_state settled decoded ok
    rw [same]
  case silence => exact (s.buffer.extend_maxMillis _).trans silence
  case received =>
    rw [List.length_append, ← received]
    rfl
  case follows => exact follows.decode decoded

theorem Stands.fire {before : List Raw} {a : Action} {s : State} (stands : Stands maxMillis before past s)
    (ok : (fire time a s).failure = none) :
    Stands maxMillis before (past.after (fire time a s).entries) (fire time a s).state := by
  obtain ⟨settled, silence, told, received, follows⟩ := stands
  have none : ∀ e ∈ (Recognizer.fire time a s).entries, ∀ i, e.step ≠ .received i := by
    intro e member i same
    rw [fire_entries] at member
    have shown := (mem_entriesAt.mp member).2
    rw [same] at shown
    simp only [List.mem_cons, reduceCtorEq, false_or] at shown
    rcases mem_firingEnd shown with ⟨_, other⟩ | other <;> cases other
  have told' : (past.after (Recognizer.fire time a s).entries).received = before.length :=
    (received_of_none none past).trans told
  have settled' := settled.fire ok
  rw [fire_state ok] at settled' ⊢
  exact ⟨settled', silence, told', received, follows⟩

theorem elapse_told {s : State} : r.Told maxMillis reports past (elapse time s) := by
  unfold elapse
  split
  · exact told_nothing s
  · exact fire_told
  · exact told_of_quiet rfl (List.forall_mem_singleton.mpr rfl)

theorem Stands.elapse {before : List Raw} {s : State} (stands : Stands maxMillis before past s)
    (ok : (elapse time s).failure = none) :
    Stands maxMillis before (past.after (elapse time s).entries) (elapse time s).state := by
  cases wait : s.wait with
  | input =>
    simp only [Recognizer.elapse, wait]
    exact stands
  | armed a deadline =>
    simp only [Recognizer.elapse, wait] at ok ⊢
    exact stands.fire ok
  | repeating a last =>
    obtain ⟨settled, silence, told, received, follows⟩ := stands
    simp only [Recognizer.elapse, wait]
    exact ⟨⟨settled.pending, by rw [settled.phase, wait]; rfl⟩, silence, told, received, follows⟩

theorem play_told (usable : Usable r.android r.table) {before : List Raw} {s : State}
    (stands : Stands maxMillis before past s) (schedule : Schedule) :
    r.Told maxMillis (before ++ schedule.reports) past (r.play schedule s) ∧
      ((r.play schedule s).failure = none →
        Stands maxMillis (before ++ schedule.reports) (past.after (r.play schedule s).entries)
          (r.play schedule s).state) := by
  induction schedule generalizing before past s with
  | nil =>
    have nothing : before ++ Schedule.reports [] = before := List.append_nil before
    rw [nothing]
    exact ⟨told_nothing s, fun _ => stands⟩
  | cons x rest ih =>
    obtain ⟨time, stimulus⟩ := x
    -- A timeout leaves the reports received as they are; a report is the next one of them.
    have step : ∃ now, before ++ Schedule.reports ((time, stimulus) :: rest) = now ++ Schedule.reports rest ∧
        r.Told maxMillis (now ++ Schedule.reports rest) past (r.react time stimulus s) ∧
        ((r.react time stimulus s).failure = none →
          Stands maxMillis now (past.after (r.react time stimulus s).entries)
            (r.react time stimulus s).state) := by
      cases stimulus with
      | report raw =>
        refine ⟨before ++ [raw], List.append_cons .., ?_, fun ok => stands.receive ok⟩
        rw [← List.append_cons]
        exact receive_told usable stands raw _
      | timeout => exact ⟨before, rfl, elapse_told, fun ok => stands.elapse ok⟩
    obtain ⟨now, same, told, stands'⟩ := step
    rw [same]
    refine ⟨told.andThen fun ok => (ih (stands' ok)).1, fun ok => ?_⟩
    obtain ⟨first, later⟩ := Outcome.failure_andThen_eq_none.mp ok
    rw [play, Outcome.andThen_of_ok first, Past.after_append]
    exact (ih (stands' first)).2 later

end

/-- The regular expressions that a recognizer may have to search for. -/
def expressions (r : Recognizer) : List String :=
  r.android :: r.table.filterMap (·.condition.regex?)

theorem usable_of_compile {r : Recognizer} {config : String} (compiled : Action.compile config = .ok r.table)
    (searchable : ∀ regex ∈ r.expressions, Regex.Searchable regex) : Usable r.android r.table where
  compiles := Action.compiles_of_compile compiled
  android := searchable r.android List.mem_cons_self
  searchable a member regex brings :=
    searchable regex (List.mem_cons_of_mem _ (List.mem_filterMap.mpr ⟨a, member, brings⟩))

theorem quiet_closing (endTime : Rat) (o : Outcome) : ∀ e ∈ closing endTime o, e.step.isQuiet = true := by
  intro e member
  rcases mem_closing member with shown | shown | shown <;> rw [shown] <;> rfl

/-- A run with a table that was read from a text fails just if it comes to an entry that stops it, and then
    for the reason that stops it there. Otherwise it receives all reports, whatever queries fail, and ends
    when the input ends. -/
theorem fails_iff_shows {r : Recognizer} {config : String} (compiled : Action.compile config = .ok r.table)
    (searchable : ∀ regex ∈ r.expressions, Regex.Searchable regex) (buffer : Buffer)
    (arrivals : List Arrival) (endTime : Rat) :
    let o := r.run buffer arrivals endTime
    (∀ f, o.failure = some f ↔ r.Shows buffer.maxMillis (arrivals.map (·.raw)) {} o.entries f) ∧
      (o.failure = none → (Past.after {} o.entries).received = arrivals.length ∧
        ∃ before, o.entries = before ++ entriesAt endTime [.ended, .inputClosed, .closed]) := by
  obtain ⟨schedule, reported, played⟩ := standing_eq_play r buffer arrivals endTime
  have start : Stands buffer.maxMillis [] {} { buffer := buffer } :=
    ⟨settled_start buffer, rfl, rfl, rfl, rfl⟩
  obtain ⟨told, stands⟩ := play_told (usable_of_compile compiled searchable) start schedule
  rw [List.nil_append, reported, ← played] at told stands
  have quiet := quiet_closing endTime (r.standing buffer arrivals endTime)
  dsimp only
  rw [run_eq_closing]
  refine ⟨fun f => ?_, fun ok => ⟨?_, ?_⟩⟩
  · rw [shows_append, or_iff_left (not_shows_of_quiet quiet)]
    exact told f
  · rw [Past.after_append, after_of_quiet quiet, (stands ok).told, List.length_map]
  · have ok : (r.standing buffer arrivals endTime).failure = none := ok
    exact ⟨(r.standing buffer arrivals endTime).entries, by simp only [closing, ok]⟩

def layerLine : String := "action=cmd(layer),vd,android"

def layerAction : Action where
  text := "cmd(layer)"
  kind := .shell "layer"
  pattern := [Button.volumeDown.token .press, Button.volumeDown.token .release]
  condition := .android
  conditionText := "android"

def layered : Recognizer where
  table := [layerAction]
  host := ⟨fun _ => .failed, fun m => if m.instant < 1000 then .failed else .answered (some "alien"),
    fun _ => .failed⟩
  android := "("

/-- The key is clicked while the window in front is not known, and again when it is. -/
def twoClicks : List Arrival :=
  [levelAt 0 .volumeDown 1, levelAt 50 .volumeDown 0, levelAt 1000 .volumeDown 1,
    levelAt 1050 .volumeDown 0, levelAt 1600 .volumeDown 1]

theorem compile_layerLine : Action.compile layerLine = .ok layered.table := by
  have parts : Action.ofParts ⟨"cmd(layer)", "vd", "android"⟩ = .ok layerAction := by
    have kind : Kind.parse "cmd(layer)" = .ok (.shell "layer") := by decide +kernel
    have condition : Condition.parse "android" = .ok .android := by decide +kernel
    exact Action.ofParts_click .volumeDown kind condition (by decide +kernel)
  have line : Action.parseLine layerLine = .ok layerAction := by
    have begins : "action=".toList.isPrefixOf layerLine.toList = true := by decide +kernel
    have ways : Action.splits (layerLine.toList.drop "action=".toList.length) =
        [⟨"cmd(layer)", "vd", "android"⟩] := by decide +kernel
    simp only [Action.parseLine, begins, ways, Action.firstOf, parts, if_true]
  have bodies : (Text.lines layerLine.toList).filterMap Action.body? = [layerLine] := by decide +kernel
  rw [Action.compile_of_bodies bodies (.cons line .nil), List.mergeSort_singleton]
  rfl

/-- The failed query of the first click does no harm, so a run that ends before the second click has ended
    goes well. When it has, the window is known, and the expression stops the run. -/
theorem fails_iff_shows_layered :
    let invalid : Failure := .regex (.invalid .unterminatedGroup (some 0))
    let first := layered.run {} (twoClicks.take 3) 2000
    let both := layered.run {} twoClicks 2000
    Action.compile layerLine = .ok layered.table ∧
      (∀ regex ∈ layered.expressions, Regex.Searchable regex) ∧
      (⟨50, .noted (.failed .foreground)⟩ : Entry) ∈ first.entries ∧
      (Past.after {} first.entries).received = 3 ∧
      both.failure = some invalid ∧ layered.Shows 350 (twoClicks.map (·.raw)) {} both.entries invalid := by
  have searchable : ∀ regex ∈ layered.expressions, Regex.Searchable regex := by
    have invalid : (Regex.compile "(").isOk = false := by decide +kernel
    intro regex member compiled valid
    obtain rfl : regex = "(" := by simpa [expressions, layered, layerAction, Condition.regex?] using member
    rw [valid] at invalid
    cases invalid
  have fails : (layered.run {} twoClicks 2000).failure =
      some (.regex (.invalid .unterminatedGroup (some 0))) := by decide +kernel
  obtain ⟨_, well⟩ := fails_iff_shows compile_layerLine searchable {} (twoClicks.take 3) 2000
  obtain ⟨stops, _⟩ := fails_iff_shows compile_layerLine searchable {} twoClicks 2000
  exact ⟨compile_layerLine, searchable, by decide +kernel, (well (by decide +kernel)).1, fails,
    (stops _).mp fails⟩

def untended : Recognizer where
  table := []
  host := ⟨fun _ => .failed, fun _ => .failed, fun _ => .failed⟩

def distantReports : List Arrival :=
  [levelAt 0 .volumeDown 1,
    ⟨50, ⟨Button.volumeDown.identifier, some 0, Binary64.ofRatio false (10 ^ 306) 1⟩⟩]

/-- The run fails, though nothing is armed, nothing is asked of the host and nothing is repeated. -/
theorem untended_fails :
    let o := untended.run {} distantReports 2000
    Action.compile "" = .ok untended.table ∧ o.failure = some (.elapsed .infinite) ∧
      ∀ e ∈ o.entries, (∀ a, e.step ≠ .armed a) ∧ (∀ note, e.step ≠ .noted note) ∧
        e.step ≠ .phase .repeating := by
  have shown : (untended.run {} distantReports 2000).entries.map (·.step) =
      [.received 0, .recorded [⟨.volumeDown, .press, 0⟩] ⟨350, 10, [⟨.volumeDown, .press, 0⟩]⟩,
        .phase .evaluating, .phase .idle, .received 1, .closed] := by decide +kernel
  refine ⟨by decide +kernel, by decide +kernel, fun e member => ?_⟩
  have among : e.step ∈ _ := List.mem_map_of_mem member
  rw [shown] at among
  simp only [List.mem_cons, List.not_mem_nil, or_false] at among
  rcases among with same | same | same | same | same | same <;> simp [same]

end Recognizer

end Gesture
