import Gesture.Proofs.Onward

namespace Gesture.Recognizer

/-- A recording: when, after how many reports, of which events, and the buffer with them in it. -/
structure Recording where
  time : Rat
  received : Nat
  events : List Event
  buffer : Buffer
  deriving DecidableEq, Repr

namespace View

def recording? (v : View) (e : Entry) : Option Recording :=
  match e.step with
  | .recorded events buffer => some ⟨e.instant, v.received, events, buffer⟩
  | _ => none

def firing? (v : View) (e : Entry) : Option (Rat × Action) :=
  match e.step with
  | .executed a => if v.phase = .fired then some (e.instant, a) else none
  | _ => none

/-- What was recorded since the last firing, and the buffer, at each firing. -/
def gesture? (v : View) (e : Entry) : Option (List Event × List Event) :=
  match e.step with
  | .firing _ => some (v.since, v.buffer.events)
  | _ => none

end View

theorem takesNoPlain :
    TakesNoPlain View.recording? ∧ TakesNoPlain View.firing? ∧ TakesNoPlain View.gesture? := by
  refine ⟨?_, ?_, ?_⟩
  all_goals
    intro v e plain
    cases shown : e.step <;> simp_all [View.recording?, View.firing?, View.gesture?, Step.isPlain]

/-- When a recording was made, of which events, and after how many reports. -/
def Recording.report (x : Recording) : Rat × List Event × Nat :=
  (x.time, x.events, x.received)

def Reception.report (y : Reception × Nat) : Rat × List Event × Nat :=
  (y.1.time, y.1.kept, y.2)

/-- What fires because of a recording: the action found, once the silence is over, if none of the
    reports that come later brings events to record before that, and the input does not end. -/
def Recording.firing? (r : Recognizer) (maxMillis : Int) (endTime : Rat) (receptions : List Reception)
    (x : Recording) : Option (Rat × Action) :=
  let due := x.time + maxMillis
  if due ≤ endTime ∧ ∀ y ∈ receptions.drop x.received, y.kept ≠ [] → due ≤ y.time then
    (r.found x.time x.received x.buffer).map (due, ·)
  else none

/-- What fires at the end of a wait, if the reports to come do not end it before. -/
def Wait.firing? (endTime : Rat) (coming : List Reception) : Wait → Option (Rat × Action)
  | .armed a due =>
    if due ≤ endTime ∧ ∀ y ∈ coming, y.kept ≠ [] → due ≤ y.time then some (due, a) else none
  | _ => none

theorem firing_after (r : Recognizer) (maxMillis : Int) (endTime : Rat) (before after : List Reception)
    {x : Recording} (count : x.received = before.length) :
    (Wait.after x.time maxMillis (r.found x.time x.received x.buffer)).firing? endTime after =
      x.firing? r maxMillis endTime (before ++ after) := by
  unfold Recording.firing?
  rw [count, List.drop_left]
  cases r.found x.time before.length x.buffer with
  | none => simp [Wait.after, Wait.firing?]
  | some a => simp [Wait.after, Wait.firing?]

section

variable {v : View} {s : State} {time endTime : Rat}

theorem firings_repeatUntil (fits : v.Fits s) (settled : s.Settled) (time : Rat) :
    readings View.firing? v (repeatUntil time s).entries = [] := by
  apply readings_repeatUntil
  intro last a repeating
  have phase : v.phase ≠ .fired := by
    rw [fits.phase, settled.phase, repeating]
    intro fired
    cases fired
  simp only [View.firing?, if_neg phase]

theorem firings_fire (v : View) (time : Rat) (a : Action) (s : State) :
    readings View.firing? v (fire time a s).entries = [(time, a)] := by
  rw [readings_fire takesNoPlain.2.1]
  rfl

theorem firing_repeatUntil (time : Rat) (s : State) (coming : List Reception) :
    (repeatUntil time s).state.wait.firing? endTime coming = s.wait.firing? endTime coming := by
  cases wait : s.wait with
  | repeating a last =>
    rw [repeatUntil_repeating wait]
    rfl
  | _ => simp only [repeatUntil, wait]

theorem firings_expire (fits : v.Fits s) (settled : s.Settled) (ok : (expire time s).failure = none)
    (within : time ≤ endTime) {coming : List Reception} (later : ∀ y ∈ coming, time ≤ y.time) :
    readings View.firing? v (expire time s).entries ++
        ((expire time s).state.wait.firing? endTime coming).toList =
      (s.wait.firing? endTime coming).toList := by
  rcases expire_cases time s with ⟨_, same⟩ | ⟨a, deadline, wait, due, same⟩
  · rw [same, firings_repeatUntil fits settled, firing_repeatUntil, List.nil_append]
  · have fires : deadline ≤ endTime ∧ ∀ y ∈ coming, y.kept ≠ [] → deadline ≤ y.time :=
      ⟨due.trans within, fun y member _ => due.trans (later y member)⟩
    rw [same] at ok ⊢
    obtain ⟨fired, _⟩ := Outcome.failure_andThen_eq_none.mp ok
    have spent : (fire deadline a s).state.wait.firing? endTime coming = none := by
      rw [fire_wait fired]
      split <;> rfl
    rw [Outcome.andThen_of_ok fired, readings_append, firings_fire,
      firings_repeatUntil (fits.fire fired) (settled.fire fired),
      firing_repeatUntil, spent, wait, Wait.firing?, if_pos fires]
    rfl

theorem recordings_expire (ok : (expire time s).failure = none) (v : View) :
    readings View.recording? v (expire time s).entries = [] := by
  have repeated : ∀ (v : View) (s : State),
      readings View.recording? v (repeatUntil time s).entries = [] :=
    fun v s => readings_repeatUntil fun _ _ _ => rfl
  rcases expire_cases time s with ⟨_, same⟩ | ⟨a, due, _, _, same⟩
  · rw [same, repeated]
  · rw [same] at ok ⊢
    obtain ⟨fired, _⟩ := Outcome.failure_andThen_eq_none.mp ok
    rw [Outcome.andThen_of_ok fired, readings_append, readings_fire takesNoPlain.1, repeated]
    rfl

variable {r : Recognizer} {raw : Raw} {events : List Event} {decoder : Decoder}

theorem received_after (v : View) (time : Rat) (wait : Wait) (index : Nat) :
    (v.after (entriesAt time (.received index :: breakSteps wait))).received = v.received + 1 := by
  cases wait <;> rfl

theorem firing_receive_quiet (settled : s.Settled)
    (decoded : s.decoder.decode raw = .ok (events, decoder))
    (quiet : (dropOwed s.owed events).1 = []) (coming : List Reception) :
    (r.receive time raw s).state.wait.firing? endTime coming = s.wait.firing? endTime coming := by
  rw [receive_quiet settled decoded quiet]
  cases wait : s.wait with
  | repeating a last =>
    split
    · rfl
    · simp only [State.taking, wait]
  | _ => simp only [State.holdEnded, State.taking, wait, Bool.false_eq_true, if_false]

theorem readings_receive_quiet {β : Type} {f : View → Entry → Option β} (no : TakesNoPlain f)
    (settled : s.Settled) (decoded : s.decoder.decode raw = .ok (events, decoder))
    (quiet : (dropOwed s.owed events).1 = []) (v : View) :
    readings f v (r.receive time raw s).entries = [] := by
  rw [receive_quiet settled decoded quiet]
  split
  · exact readings_plain no (receive_plain time s.wait s.received) v
  · exact readings_plain no (receive_plain time .input s.received) v

theorem wait_receive_batch (settled : s.Settled)
    (decoded : s.decoder.decode raw = .ok (events, decoder))
    (arrived : (dropOwed s.owed events).1 ≠ []) (ok : (r.receive time raw s).failure = none) :
    let buffer := s.buffer.extend (dropOwed s.owed events).1
    (r.receive time raw s).state.wait =
      Wait.after time s.buffer.maxMillis (r.found time (s.received + 1) buffer) := by
  rw [receive_batch settled decoded arrived, Outcome.andThen_mk] at ok ⊢
  dsimp only at ok ⊢
  rw [evaluate_state ok]
  rfl

theorem readings_receive_batch {β : Type} {f : View → Entry → Option β} (no : TakesNoPlain f)
    (settled : s.Settled) (decoded : s.decoder.decode raw = .ok (events, decoder))
    (arrived : (dropOwed s.owed events).1 ≠ []) (v : View) :
    let batch := (dropOwed s.owed events).1
    readings f v (r.receive time raw s).entries =
      (f (v.after (entriesAt time (.received s.received :: breakSteps s.wait)))
        ⟨time, .recorded batch (s.buffer.extend batch)⟩).toList := by
  rw [receive_batch settled decoded arrived, Outcome.andThen_mk, readings_append,
    readings_plain no (receive_plain time s.wait s.received), readings_evaluate no, List.nil_append]
  rfl

end

theorem firing_cons_quiet (wait : Wait) (endTime : Rat) {y : Reception} (quiet : y.kept = [])
    (coming : List Reception) : wait.firing? endTime (y :: coming) = wait.firing? endTime coming := by
  cases wait <;> simp [Wait.firing?, quiet]

theorem firing_cons_batch {wait : Wait} (endTime : Rat) {y : Reception} (arrived : y.kept ≠ [])
    (early : ∀ a due, wait = .armed a due → y.time < due) (coming : List Reception) :
    wait.firing? endTime (y :: coming) = none := by
  cases wait with
  | armed a due =>
    have missed : ¬due ≤ y.time := Rat.not_le.mpr (early a due rfl)
    simp [Wait.firing?, arrived, missed]
  | _ => rfl

/-- What the entries of the rest of a run are to show, when reports come at `times`: each report that
    has events to record is recorded as it comes, and what fires is what the wait and the recordings
    bring about. -/
def Foretold (r : Recognizer) (maxMillis : Int) (endTime : Rat) (wait : Wait) (v : View) (a : Account)
    (times : List Rat) (entries : List Entry) : Prop :=
  let recorded := readings View.recording? v entries
  ∃ coming : List Reception, (a.follow entries).received = a.received ++ coming ∧
    coming.map (·.time) = times ∧
    recorded.map Recording.report =
      ((coming.zipIdx (a.received.length + 1)).filter (·.1.kept ≠ [])).map Reception.report ∧
    readings View.firing? v entries = (wait.firing? endTime coming).toList ++
      recorded.filterMap (·.firing? r maxMillis endTime (a.received ++ coming))

section

variable {r : Recognizer} {maxMillis : Int} {time endTime : Rat} {v : View} {a : Account} {s : State}
  {times : List Rat} {entries : List Entry}

theorem Foretold.expire (fits : v.Fits s) (settled : s.Settled) (ok : (expire time s).failure = none)
    (within : time ≤ endTime) (later : ∀ t ∈ times, time ≤ t)
    (told : Foretold r maxMillis endTime (expire time s).state.wait
      (v.after (expire time s).entries) (a.follow (expire time s).entries) times entries) :
    Foretold r maxMillis endTime s.wait v a times ((expire time s).entries ++ entries) := by
  obtain ⟨coming, received, arrive, recorded, fired⟩ := told
  rw [received_expire ok] at received recorded fired
  have follow : ∀ y ∈ coming, time ≤ y.time :=
    fun y member => later y.time (arrive ▸ List.mem_map_of_mem member)
  refine ⟨coming, ?_, arrive, ?_, ?_⟩
  · rw [Account.follow_append, received]
  · rw [readings_append, recordings_expire ok]
    exact recorded
  · rw [readings_append, fired, ← List.append_assoc, firings_expire fits settled ok within follow,
      readings_append, recordings_expire ok, List.nil_append]

variable {raw : Raw} {events : List Event} {decoder : Decoder} {raws all : List Raw}

theorem Foretold.receive_quiet (balanced : Balanced a s [] (raw :: raws) all)
    (decoded : s.decoder.decode raw = .ok (events, decoder))
    (quiet : (dropOwed s.owed events).1 = [])
    (told : Foretold r maxMillis endTime (r.receive time raw s).state.wait
      (v.after (r.receive time raw s).entries) (a.follow (r.receive time raw s).entries) times entries) :
    Foretold r maxMillis endTime s.wait v a (time :: times)
      ((r.receive time raw s).entries ++ entries) := by
  have settled := balanced.settled
  let y : Reception := ⟨time, events, (dropOwed s.owed events).1⟩
  obtain ⟨coming, received, arrive, recorded, fired⟩ := told
  rw [balanced.received_receive decoded, List.append_assoc] at received fired
  rw [balanced.received_receive decoded, List.length_append, List.length_singleton] at recorded
  rw [firing_receive_quiet settled decoded quiet] at fired
  refine ⟨y :: coming, ?_, ?_, ?_, ?_⟩
  · rw [Account.follow_append, received]
    rfl
  · rw [List.map_cons, arrive]
  · rw [readings_append, readings_receive_quiet takesNoPlain.1 settled decoded quiet,
      List.zipIdx_cons, List.filter_cons_of_neg (by simpa using quiet)]
    exact recorded
  · rw [readings_append, readings_append,
      readings_receive_quiet takesNoPlain.1 settled decoded quiet,
      readings_receive_quiet takesNoPlain.2.1 settled decoded quiet,
      firing_cons_quiet s.wait endTime quiet]
    exact fired

theorem Foretold.receive_batch (fits : v.Fits s) (balanced : Balanced a s [] (raw :: raws) all)
    (early : s.Early time) (decoded : s.decoder.decode raw = .ok (events, decoder))
    (arrived : (dropOwed s.owed events).1 ≠ []) (ok : (r.receive time raw s).failure = none)
    (told : Foretold r s.buffer.maxMillis endTime (r.receive time raw s).state.wait
      (v.after (r.receive time raw s).entries) (a.follow (r.receive time raw s).entries) times entries) :
    Foretold r s.buffer.maxMillis endTime s.wait v a (time :: times)
      ((r.receive time raw s).entries ++ entries) := by
  have settled := balanced.settled
  let batch := (dropOwed s.owed events).1
  let y : Reception := ⟨time, events, batch⟩
  let x : Recording := ⟨time, s.received + 1, batch, s.buffer.extend batch⟩
  have count : x.received = (a.received ++ [y]).length := by
    rw [List.length_append, ← balanced.received]
    rfl
  have shown : readings View.recording? v (r.receive time raw s).entries = [x] := by
    rw [readings_receive_batch takesNoPlain.1 settled decoded arrived, View.recording?,
      received_after, fits.received]
    rfl
  have silent : readings View.firing? v (r.receive time raw s).entries = [] := by
    rw [readings_receive_batch takesNoPlain.2.1 settled decoded arrived]
    rfl
  obtain ⟨coming, received, arrive, recorded, fired⟩ := told
  -- When what is armed for these events fires is foretold from the reports that are still to come.
  have next : (r.receive time raw s).state.wait.firing? endTime coming =
      x.firing? r s.buffer.maxMillis endTime (a.received ++ y :: coming) := by
    rw [wait_receive_batch settled decoded arrived ok, List.append_cons]
    exact firing_after r s.buffer.maxMillis endTime _ coming count
  rw [balanced.received_receive decoded, List.append_assoc, List.singleton_append] at received fired
  rw [balanced.received_receive decoded, List.length_append, List.length_singleton] at recorded
  refine ⟨y :: coming, ?_, ?_, ?_, ?_⟩
  · rw [Account.follow_append, received]
  · rw [List.map_cons, arrive]
  · rw [readings_append, shown, List.singleton_append, List.map_cons, recorded, List.zipIdx_cons,
      List.filter_cons_of_pos (by simpa using arrived), List.map_cons, ← balanced.received]
    rfl
  · rw [readings_append, readings_append, shown, silent, firing_cons_batch (y := y) endTime arrived early,
      List.singleton_append, List.nil_append, fired, next, List.filterMap_cons]
    cases x.firing? r s.buffer.maxMillis endTime (a.received ++ y :: coming) <;> rfl

theorem maxMillis_repeatUntil (time : Rat) (s : State) :
    (repeatUntil time s).state.buffer.maxMillis = s.buffer.maxMillis := by
  unfold repeatUntil
  split <;> rfl

theorem maxMillis_expire (ok : (expire time s).failure = none) :
    (expire time s).state.buffer.maxMillis = s.buffer.maxMillis := by
  refine expire_induction (p := fun t => t.buffer.maxMillis = s.buffer.maxMillis) ok rfl
    (fun a due fired => ?_) fun t same => ?_
  · rw [fire_state fired]
    rfl
  · rw [maxMillis_repeatUntil, same]

theorem maxMillis_receive (settled : s.Settled) (ok : (r.receive time raw s).failure = none) :
    (r.receive time raw s).state.buffer.maxMillis = s.buffer.maxMillis := by
  obtain ⟨events, decoder, decoded⟩ := decoded_of_ok ok
  obtain ⟨wait, phase, left⟩ := receive_state settled decoded ok
  rw [left]
  exact Buffer.extend_maxMillis s.buffer _

theorem onward_foretold {arrivals : List Arrival} (fits : v.Fits s)
    (balanced : Balanced a s [] (arrivals.map (·.raw)) all) (inTime : InTime arrivals endTime)
    (ok : (r.onward endTime arrivals s).failure = none) :
    Foretold r s.buffer.maxMillis endTime s.wait v a (arrivals.map (·.time))
      (r.onward endTime arrivals s).entries := by
  -- The view and the account tell the state before each report; what comes later is foretold first.
  induction arrivals generalizing v a s with
  | nil =>
    rw [onward_nil] at ok ⊢
    rw [← List.append_nil (expire endTime s).entries]
    refine Foretold.expire fits balanced.settled ok Rat.le_refl (by simp) ⟨[], ?_, rfl, rfl, ?_⟩
    · rw [List.append_nil]
      rfl
    · cases wait : (expire endTime s).state.wait with
      | armed b due =>
        have early : ¬due ≤ endTime := Rat.not_le.mpr (expire_early ok b due wait)
        simp [readings, Wait.firing?, early]
      | _ => rfl
  | cons x rest ih =>
    obtain ⟨waited, taken, ok, parts⟩ := onward_cons_of_ok ok
    have fits' := fits.expire waited
    have balanced' := balanced.expire waited
    have told := ih (fits'.receive balanced'.settled taken) (balanced'.receive taken) inTime.tail ok
    rw [maxMillis_receive balanced'.settled taken] at told
    rw [parts]
    apply Foretold.expire fits balanced.settled waited (inTime.ended x List.mem_cons_self) inTime.later
    rw [← maxMillis_expire waited]
    obtain ⟨events, decoder, decoded⟩ := decoded_of_ok taken
    by_cases quiet : (dropOwed (expire x.time s).state.owed events).1 = []
    · exact told.receive_quiet balanced' decoded quiet
    · exact told.receive_batch fits' balanced' (expire_early waited) decoded quiet taken

end

theorem gestures_since (v : View) (entries : List Entry) :
    (readings View.gesture? v entries).flatMap (·.1) ++ (v.after entries).since =
      v.since ++ (readings View.recording? v entries).flatMap (·.events) := by
  induction entries generalizing v with
  | nil => simp [readings, View.after]
  | cons e rest ih =>
    have later := ih (v.enter e)
    rw [readings, readings, List.flatMap_append, List.flatMap_append, List.append_assoc]
    have same : v.after (e :: rest) = (v.enter e).after rest := rfl
    rw [same, later]
    cases shown : e.step <;>
      simp [View.gesture?, View.recording?, View.enter, shown]

section

variable {v : View} {s : State}

theorem gestures_expire {time : Rat} (fits : v.Fits s) (ok : (expire time s).failure = none) :
    ∀ g ∈ readings View.gesture? v (expire time s).entries, g.2.Sublist g.1 := by
  have repeated : ∀ (v : View) (s : State),
      readings View.gesture? v (repeatUntil time s).entries = [] :=
    fun v s => readings_repeatUntil fun _ _ _ => rfl
  have kept : v.buffer.events.Sublist v.since := by
    rw [fits.buffer]
    exact fits.since
  rcases expire_cases time s with ⟨_, same⟩ | ⟨a, due, _, _, same⟩
  · rw [same, repeated]
    exact List.forall_mem_nil _
  · rw [same] at ok ⊢
    obtain ⟨fired, _⟩ := Outcome.failure_andThen_eq_none.mp ok
    rw [Outcome.andThen_of_ok fired, readings_append, readings_fire takesNoPlain.2.2, repeated]
    exact List.forall_mem_singleton.mpr kept

theorem gestures_receive {r : Recognizer} {time : Rat} {raw : Raw} (settled : s.Settled)
    (ok : (r.receive time raw s).failure = none) (v : View) :
    readings View.gesture? v (r.receive time raw s).entries = [] := by
  obtain ⟨events, decoder, decoded⟩ := decoded_of_ok ok
  by_cases quiet : (dropOwed s.owed events).1 = []
  · exact readings_receive_quiet takesNoPlain.2.2 settled decoded quiet v
  · rw [readings_receive_batch takesNoPlain.2.2 settled decoded quiet]
    rfl

theorem onward_gestures {r : Recognizer} {endTime : Rat} {arrivals : List Arrival} (fits : v.Fits s)
    (settled : s.Settled) (ok : (r.onward endTime arrivals s).failure = none) :
    ∀ g ∈ readings View.gesture? v (r.onward endTime arrivals s).entries, g.2.Sublist g.1 := by
  induction arrivals generalizing v s with
  | nil => exact gestures_expire fits ok
  | cons x rest ih =>
    obtain ⟨waited, taken, ok, parts⟩ := onward_cons_of_ok ok
    have settled' := settled.expire waited
    rw [parts, readings_append, readings_append, gestures_receive settled' taken, List.nil_append]
    intro g member
    rcases List.mem_append.mp member with member | member
    · exact gestures_expire fits waited g member
    · exact ih ((fits.expire waited).receive settled' taken) (settled'.receive taken) ok g member

end

theorem readings_run {β : Type} {f : View → Entry → Option β} (no : TakesNoPlain f) {r : Recognizer}
    {buffer : Buffer} {arrivals : List Arrival} {endTime : Rat}
    (ok : (r.run buffer arrivals endTime).failure = none) (v : View) :
    readings f v (r.run buffer arrivals endTime).entries =
      readings f v (r.standing buffer arrivals endTime).entries := by
  obtain ⟨stood, closed⟩ := run_of_ok ok
  have plain : ∀ e ∈ entriesAt endTime [.ended, .inputClosed, .closed], e.step.isPlain = true := by
    simp [entriesAt, Step.isPlain]
  rw [closed, Outcome.andThen_of_ok stood, readings_append]
  dsimp only
  rw [readings_plain no plain, List.append_nil]

/-- An action fires when the silence after a recording is over, just if it is the action found then
    for the buffer, no report that comes later brings events to record before that, and the input has
    not ended by then. A report brings events to record just if not all of its events are owed
    releases. What is in the buffer at a firing was recorded since the firing before. -/
theorem fires_after_silence (r : Recognizer) (buffer : Buffer) (arrivals : List Arrival) (endTime : Rat)
    (inTime : InTime arrivals endTime) (ok : (r.run buffer arrivals endTime).failure = none) :
    let entries := (r.run buffer arrivals endTime).entries
    let receptions := ((Account.opened buffer (arrivals.map (·.raw))).follow entries).received
    let recorded := readings View.recording? (.opened buffer) entries
    let gestures := readings View.gesture? (.opened buffer) entries
    receptions.map (·.time) = arrivals.map (·.time) ∧
      recorded.map Recording.report =
        ((receptions.zipIdx 1).filter (·.1.kept ≠ [])).map Reception.report ∧
      readings View.firing? (.opened buffer) entries =
        recorded.filterMap (·.firing? r buffer.maxMillis endTime receptions) ∧
      (∀ g ∈ gestures, g.2.Sublist g.1) ∧
      gestures.flatMap (·.1) <+: buffer.events ++ recorded.flatMap (·.events) := by
  dsimp only
  obtain ⟨stood, _⟩ := run_of_ok ok
  have fits := View.fits_opened buffer
  have balanced := balanced_opened buffer (arrivals.map (·.raw))
  rw [standing_eq_onward] at stood
  obtain ⟨coming, received, arrive, recorded, fired⟩ := onward_foretold fits balanced inTime stood
  rw [follow_run ok, readings_run takesNoPlain.1 ok, readings_run takesNoPlain.2.1 ok,
    readings_run takesNoPlain.2.2 ok, standing_eq_onward]
  have all : ((Account.opened buffer (arrivals.map (·.raw))).follow
      (r.onward endTime arrivals { buffer := buffer }).entries).received = coming := received
  rw [all]
  refine ⟨arrive, recorded, fired, onward_gestures fits balanced.settled stood, ?_⟩
  exact ⟨_, gestures_since (.opened buffer) (r.onward endTime arrivals { buffer := buffer }).entries⟩

/-- The first key fires after its silence, the click of the other one after a silence that the late
    release of the first does not break. -/
theorem fires_after_silence_lateRelease :
    let o := volumeKeys.run {} lateRelease 5000
    let receptions := ((Account.opened {} (lateRelease.map (·.raw))).follow o.entries).received
    let recorded := readings View.recording? (.opened {}) o.entries
    InTime lateRelease 5000 ∧ o.failure = none ∧
      (readings View.firing? (.opened {}) o.entries).map (fun x => (x.1, x.2.text)) =
        [(350, "repeat(100,louder)"), (1050, "cmd(quieter)")] ∧
      readings View.firing? (.opened {}) o.entries =
        recorded.filterMap (·.firing? volumeKeys 350 5000 receptions) := by
  have inTime : InTime lateRelease 5000 := by decide +kernel
  have ok : (volumeKeys.run {} lateRelease 5000).failure = none := by decide +kernel
  exact ⟨inTime, ok, by decide +kernel, (fires_after_silence volumeKeys {} lateRelease 5000 inTime ok).2.2.1⟩

end Gesture.Recognizer
