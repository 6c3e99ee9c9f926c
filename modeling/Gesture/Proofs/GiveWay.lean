import Gesture.Proofs.Afresh
import Gesture.Proofs.BestMatch
import Gesture.Proofs.Decoding
import Gesture.Proofs.Stops
import Mathlib.Data.List.Chain

namespace Gesture

open Event

structure Host.Steady (host : Host) (answers : Answers) : Prop where
  locked : ∀ m, host.locked m = answers.locked
  foreground : ∀ m, host.foreground m = answers.foreground
  title : ∀ m, host.title m = answers.title

section

variable {host : Host} {answers : Answers} {s : Snapshot}

theorem Host.Steady.hear (steady : host.Steady answers) (m : Moment) (q : Query) :
    answers.hear host m q = answers := by
  cases q with
  | locked => rw [Answers.hear, steady.locked]
  | foreground => rw [Answers.hear, steady.foreground]
  | title => rw [Answers.hear, steady.title]

theorem Answers.Agrees.ask (agrees : answers.Agrees s) (steady : host.Steady answers) (time : Rat) (q : Query) :
    answers.Agrees (s.ask host time q) := by
  cases known : s.knows q with
  | true => rwa [Snapshot.ask_of_knows known]
  | false =>
    rw [Snapshot.ask_of_unknown known answers, steady.hear]
    exact agrees.learn (by cases q <;> rfl)

theorem Answers.Agrees.asks (agrees : answers.Agrees s) (steady : host.Steady answers) (time : Rat)
    (queries : List Query) : answers.Agrees (queries.foldl (Snapshot.ask host time) s) := by
  induction queries generalizing s with
  | nil => exact agrees
  | cons q rest ih => exact ih (agrees.ask steady time q)

theorem Snapshot.evaluate_of_steady (agrees : answers.Agrees s) (steady : host.Steady answers)
    (android : String) (time : Rat) (c : Condition) :
    (s.evaluate host android time c).1 = c.outcome android answers ∧
      answers.Agrees (s.evaluate host android time c).2 := by
  have later : answers.Agrees (s.evaluate host android time c).2 := by
    obtain ⟨queries, same⟩ := evaluate_asks host android time s c
    rw [same]
    exact agrees.asks steady time queries
  exact ⟨congrArg Prod.fst (evaluate_eq_outcome later), later⟩

end

namespace Action

def Ends (android : String) (answers : Answers) (tokens : List Token) (a : Action) : Prop :=
  a.OccursIn tokens ∧ a.condition.outcome android answers ≠ .ok false

instance (android : String) (answers : Answers) (tokens : List Token) (a : Action) :
    Decidable (a.Ends android answers tokens) :=
  inferInstanceAs (Decidable (_ ∧ _))

def found (android : String) (answers : Answers) : Option Action → Except Regex.Error (Option Action)
  | none => .ok none
  | some a => (a.condition.outcome android answers).map fun _ => some a

theorem found_eq_ok {android : String} {answers : Answers} {last : Option Action} {a : Action} :
    found android answers last = .ok (some a) ↔
      last = some a ∧ ∃ holds, a.condition.outcome android answers = .ok holds := by
  cases last with
  | none => simp [found]
  | some b =>
    cases outcome : b.condition.outcome android answers with
    | error e =>
      simp only [found, outcome, Except.map, Option.some.injEq, reduceCtorEq, false_iff, not_and]
      rintro rfl ⟨holds, told⟩
      rw [outcome] at told
      cases told
    | ok holds =>
      simp only [found, outcome, Except.map, Except.ok.injEq, Option.some.injEq, iff_self_and]
      rintro rfl
      exact ⟨holds, outcome⟩

theorem OccursIn.mono {a : Action} {tokens longer : List Token} (occurs : a.OccursIn tokens)
    (within : tokens <:+: longer) : a.OccursIn longer :=
  ⟨occurs.1, occurs.2.trans within⟩

theorem InRank.find?_le {table : List Action} {p q : Action → Bool} (ordered : InRank table)
    (weaker : ∀ a, p a = true → q a = true) {a : Action} (first : table.find? p = some a) :
    ∃ b, table.find? q = some b ∧ b.rank ≤ a.rank ∧ (p b = true → b = a) := by
  induction table with
  | nil => cases first
  | cons c rest ih =>
    obtain ⟨least, ordered⟩ := List.pairwise_cons.mp ordered
    cases here : p c with
    | true =>
      rw [List.find?_cons_of_pos here] at first
      cases first
      exact ⟨a, List.find?_cons_of_pos (weaker a here), le_rfl, fun _ => rfl⟩
    | false =>
      have stronger : ¬p c = true := Bool.eq_false_iff.mp here
      rw [List.find?_cons_of_neg stronger] at first
      by_cases there : q c = true
      · exact ⟨c, List.find?_cons_of_pos there, least a (List.mem_of_find?_eq_some first),
          fun passes => absurd passes stronger⟩
      · rw [List.find?_cons_of_neg there]
        exact ih ordered first

end Action

namespace Recognizer

variable {r : Recognizer} {answers : Answers}

theorem candidate_of_steady (steady : r.host.Steady answers) (time : Rat) (tokens : List Token)
    {s : Snapshot} (agrees : answers.Agrees s) (table : List Action) :
    (r.candidate time tokens s table).1 =
      Action.found r.android answers (table.find? fun a => a.Ends r.android answers tokens) := by
  induction table generalizing s with
  | nil => rfl
  | cons a rest ih =>
    by_cases occurs : a.OccursIn tokens
    · obtain ⟨told, agrees⟩ := Snapshot.evaluate_of_steady agrees steady r.android time a.condition
      have ends : a.Ends r.android answers tokens ↔ a.condition.outcome r.android answers ≠ .ok false :=
        and_iff_right occurs
      rw [candidate, if_pos (Action.matchesAnywhere_iff.mpr occurs)]
      split <;> rename_i evaluation <;> rw [evaluation] at told agrees
      · rw [List.find?_cons_of_pos (by simp [ends, ← told]), Action.found, ← told]
        rfl
      · rw [List.find?_cons_of_neg (by simp [ends, ← told])]
        exact ih agrees
      · rw [List.find?_cons_of_pos (by simp [ends, ← told]), Action.found, ← told]
        rfl
    · have passed : ¬a.Ends r.android answers tokens := fun ends => occurs ends.1
      rw [candidate, if_neg (occurs ∘ Action.matchesAnywhere_iff.mp),
        List.find?_cons_of_neg (by simpa using passed)]
      exact ih agrees

/-- With more tokens, a search that found an action ends with one that is not after it. If the condition of
    this one cannot be told, its pattern has come with the new tokens. -/
theorem ends_of_more (ordered : Action.InRank r.table) {tokens longer : List Token} {a : Action}
    (found : Action.found r.android answers (r.table.find? fun b => b.Ends r.android answers tokens) =
      .ok (some a)) (within : tokens <:+: longer) :
    ∃ b ∈ r.table, b.rank ≤ a.rank ∧ b.OccursIn longer ∧
      (r.table.find? fun b => b.Ends r.android answers longer) = some b ∧
      (b.condition.outcome r.android answers = .ok true ∨
        ∃ e, b.condition.outcome r.android answers = .error e ∧ ¬b.OccursIn tokens) := by
  obtain ⟨first, holds, told⟩ := Action.found_eq_ok.mp found
  obtain ⟨b, ends, before, same⟩ := ordered.find?_le (q := fun b => b.Ends r.android answers longer)
    (fun b => by
      simp only [decide_eq_true_eq]
      exact fun ⟨occurs, untold⟩ => ⟨occurs.mono within, untold⟩) first
  have there : b.Ends r.android answers longer := by simpa using List.find?_some ends
  refine ⟨b, List.mem_of_find?_eq_some ends, before, there.1, ends, ?_⟩
  cases outcome : b.condition.outcome r.android answers with
  | ok holds =>
    cases holds with
    | true => exact .inl rfl
    | false => exact absurd outcome there.2
  | error e =>
    refine .inr ⟨e, rfl, fun already => ?_⟩
    have equal := same (decide_eq_true ⟨already, there.2⟩)
    rw [← equal, outcome] at told
    cases told

end Recognizer

namespace Buffer

/-- Whether the removal of chatter removes nothing while events are appended one after another. -/
def Spares (b : Buffer) : List Event → Prop
  | [] => True
  | e :: rest => (b.append e).events = trim b.maxMillis (b.events ++ [e]) ∧ (b.append e).Spares rest

theorem live_append (b : Buffer) (e : Event) : Live b.maxMillis (b.append e).events :=
  live_debounce b.chatterMillis (live_trim b.maxMillis _)

theorem live_extend {b : Buffer} (live : Live b.maxMillis b.events) (events : List Event) :
    Live b.maxMillis (b.extend events).events := by
  induction events generalizing b with
  | nil => exact live
  | cons e rest ih => exact ih (b := b.append e) (live_append b e)

theorem trim_append_of_soon {b : Buffer} (live : Live b.maxMillis b.events) {e : Event}
    (soon : e.elapsed ≤ b.maxMillis) (kept : b.appendLost e = []) :
    trim b.maxMillis (b.events ++ [e]) = b.events ++ [e] := by
  have fits : e.edge = .release ↔ e.button ∈ held b.events := by
    by_contra misfit
    rw [appendLost, trimLost_append, Scan.ofEvents_of_live live, if_neg misfit] at kept
    exact List.cons_ne_nil _ _ (List.append_eq_nil_iff.mp kept).2
  rw [trim, Scan.ofEvents_of_live (live.append fits fun _ _ => soon)]

theorem extend_of_soon {b : Buffer} (live : Live b.maxMillis b.events) {events : List Event}
    (soon : ∀ e ∈ events, e.elapsed ≤ b.maxMillis) (kept : b.extendLost events = [])
    (spares : b.Spares events) : b.extend events = { b with events := b.events ++ events } := by
  induction events generalizing b with
  | nil => rw [List.append_nil]; rfl
  | cons e rest ih =>
    obtain ⟨first, later⟩ := List.forall_mem_cons.mp soon
    obtain ⟨kept, keptLater⟩ := List.append_eq_nil_iff.mp kept
    have appended : b.append e = { b with events := b.events ++ [e] } := by
      rw [← trim_append_of_soon live first kept, ← spares.1]
      rfl
    have extended := ih (b := b.append e) (live_append b e) later keptLater spares.2
    rw [appended] at extended
    rw [List.append_cons]
    exact (congrArg (·.extend rest) appended).trans extended

end Buffer

namespace Recognizer

variable {r : Recognizer} {answers : Answers}

/-- Whether the buffer is one for which an action was armed no later than with a report, and has not lost
    anything since: the wait goes on at most as long after the report as the silence lasts, and a search
    finds the action still. -/
structure Awaits (r : Recognizer) (answers : Answers) (x : Arrival) (b : Buffer) (a : Action) (due : Rat) :
    Prop where
  due : due ≤ x.time + b.maxMillis
  live : Live b.maxMillis b.events
  found : Action.found r.android answers (r.table.find? fun a => a.Ends r.android answers b.tokens) =
    .ok (some a)
  patient : (Binary64.ofQuotient? b.maxMillis 1000).isNone = false ∧ 0 ≤ b.maxMillis

/-- How a recognizer stands when some reports have come: its decoder knows the stamp of the last one that
    named a button, and since that one an armed action has been the right one. -/
structure Tracks (r : Recognizer) (answers : Answers) (reports : List Arrival) (s : State) : Prop where
  settled : s.Settled
  last : s.decoder.last = (named reports).getLast?.map (·.raw.timestamp)
  armed : ∀ a due, s.wait = .armed a due → ∃ x ∈ (named reports).getLast?, r.Awaits answers x s.buffer a due

section

variable {reports : List Arrival} {s t : State} {x y : Arrival} {b : Buffer} {a : Action} {time due : Rat}

theorem Awaits.later (awaits : r.Awaits answers y b a due) (later : y.time ≤ x.time) :
    r.Awaits answers x b a due :=
  ⟨by linarith [awaits.due], awaits.live, awaits.found, awaits.patient⟩

theorem arm_failure_eq_none : (arm time a s).failure = none ↔
    (Binary64.ofQuotient? s.buffer.maxMillis 1000).isNone = false ∧ 0 ≤ s.buffer.maxMillis := by
  by_cases long : (Binary64.ofQuotient? s.buffer.maxMillis 1000).isNone = true
  · have failed : (arm time a s).failure = some .waitTooLong := by simp only [arm, if_pos long]
    simp only [failed, long, reduceCtorEq, Bool.true_eq_false, false_and]
  · by_cases negative : s.buffer.maxMillis < 0
    · have failed : (arm time a s).failure = some .waitNegative := by
        simp only [arm, if_neg long, if_pos negative]
      simp only [failed, reduceCtorEq, Int.not_le.mpr negative, and_false]
    · have armed : (arm time a s).failure = none := by simp only [arm, if_neg long, if_neg negative]
      exact iff_of_true armed ⟨Bool.eq_false_iff.mpr long, Int.not_lt.mp negative⟩

theorem evaluate_of_found {batch : List Event}
    (searched : (r.candidate time (s.buffer.extend batch).tokens { received := s.received } r.table).1 =
      .ok (some a))
    (patient : (Binary64.ofQuotient? s.buffer.maxMillis 1000).isNone = false ∧ 0 ≤ s.buffer.maxMillis) :
    (r.evaluate time batch s).failure = none ∧
      (r.evaluate time batch s).state.wait = .armed a (time + s.buffer.maxMillis) := by
  have ok : (r.evaluate time batch s).failure = none := by
    rw [Option.eq_none_iff_forall_ne_some]
    intro f failed
    rcases (failure_evaluate r time batch s f).mp failed with ⟨e, failed, _⟩ | ⟨b, _, failed⟩
    · rw [searched] at failed
      cases failed
    · have armed (t : State) (same : t.buffer = s.buffer.extend batch) : (arm time b t).failure = none :=
        arm_failure_eq_none.mpr (by rw [same, Buffer.extend_maxMillis]; exact patient)
      rw [armed _ rfl] at failed
      cases failed
  have found := search_of_ok ok
  dsimp only at found
  rw [searched] at found
  refine ⟨ok, ?_⟩
  rw [evaluate_state ok, ← Except.ok.inj found]
  rfl

theorem awaits_of_evaluate (steady : r.host.Steady answers) {batch : List Event} (some : batch ≠ [])
    (ok : (r.evaluate x.time batch s).failure = none)
    (wait : (r.evaluate x.time batch s).state.wait = .armed a due) :
    r.Awaits answers x (r.evaluate x.time batch s).state.buffer a due := by
  have searched := search_of_ok ok
  have silent := s.buffer.extend_maxMillis batch
  rw [evaluate_state ok] at wait ⊢
  dsimp only at searched wait ⊢
  cases result : r.found x.time s.received (s.buffer.extend batch) with
  | none =>
    rw [result] at wait
    cases wait
  | some b =>
    rw [result] at wait searched
    cases wait
    have armed : (arm x.time a { s with
        buffer := s.buffer.extend batch, phase := .evaluating, wait := .input }).failure = none := by
      rw [Option.eq_none_iff_forall_ne_some]
      intro f failed
      have fails := (failure_evaluate r x.time batch s f).mpr (.inr ⟨a, searched, failed⟩)
      rw [ok] at fails
      cases fails
    have patient := arm_failure_eq_none.mp armed
    dsimp only at patient
    refine ⟨?due, ?live, ?found, patient⟩
    case due => rw [silent]
    case live =>
      cases batch with
      | nil => exact absurd rfl some
      | cons e rest =>
        rw [silent]
        exact Buffer.live_extend (b := s.buffer.append e) (Buffer.live_append s.buffer e) rest
    case found =>
      have start : answers.Agrees { received := s.received } := ⟨by simp, by simp, by simp⟩
      rw [← candidate_of_steady steady x.time _ start, searched]

theorem tracks_start (r : Recognizer) (answers : Answers) (buffer : Buffer) :
    r.Tracks answers [] { buffer := buffer } :=
  ⟨settled_start buffer, rfl, fun _ _ wait => by cases wait⟩

theorem named_concat (reports : List Arrival) (x : Arrival) :
    named (reports ++ [x]) = if x.raw.button?.isSome then named reports ++ [x] else named reports := by
  rw [named_append]
  split
  · rename_i name
    exact congrArg (named reports ++ ·) (List.filter_cons_of_pos name)
  · rename_i noName
    exact (congrArg (named reports ++ ·) (List.filter_cons_of_neg noName)).trans (List.append_nil _)

theorem last_concat (inOrder : ∀ y ∈ (named reports).getLast?, x.raw.button?.isSome → y.time ≤ x.time)
    (member : y ∈ (named reports).getLast?) : ∃ z ∈ (named (reports ++ [x])).getLast?, y.time ≤ z.time := by
  rw [named_concat]
  split
  · rename_i name
    exact ⟨x, by rw [List.getLast?_concat]; rfl, inOrder y member name⟩
  · exact ⟨y, member, le_rfl⟩

theorem Tracks.decoded (tracks : r.Tracks answers reports s) {events : List Event} {decoder : Decoder}
    (decoded : s.decoder.decode x.raw = .ok (events, decoder)) :
    decoder.last = (named (reports ++ [x])).getLast?.map (·.raw.timestamp) := by
  rw [named_concat]
  rcases decode_cases decoded with ⟨noName, rfl, rfl⟩ | ⟨_, _, name, _, rfl⟩
  · rw [if_neg (by simp [noName])]
    exact tracks.last
  · rw [if_pos (by simp [name]), List.getLast?_concat]
    rfl

theorem Tracks.receive (tracks : r.Tracks answers reports s) (steady : r.host.Steady answers)
    (inOrder : ∀ y ∈ (named reports).getLast?, x.raw.button?.isSome → y.time ≤ x.time)
    (ok : (r.receive x.time x.raw s).failure = none) :
    r.Tracks answers (reports ++ [x]) (r.receive x.time x.raw s).state := by
  have settled := tracks.settled.receive ok
  obtain ⟨events, decoder, decoded⟩ := decoded_of_ok ok
  have last := tracks.decoded decoded
  -- Without events to record, what is armed stays so, for a later report. With some, this report is the one.
  by_cases quiet : (dropOwed s.owed events).1 = []
  · rw [receive_quiet tracks.settled decoded quiet] at settled ⊢
    split at settled <;> rename_i ended
    · exact if_pos ended ▸ ⟨settled, last, fun _ _ wait => by cases wait⟩
    · refine if_neg ended ▸ ⟨settled, last, fun a due wait => ?_⟩
      obtain ⟨y, member, awaits⟩ := tracks.armed a due wait
      obtain ⟨z, member', later⟩ := last_concat inOrder member
      exact ⟨z, member', awaits.later later⟩
  · rw [receive_batch tracks.settled decoded quiet, Outcome.andThen_mk] at ok settled ⊢
    refine ⟨settled, ?_, fun a due wait => ?_⟩
    · dsimp only at ok ⊢
      rw [evaluate_state ok]
      exact last
    · have name : x.raw.button?.isSome := by
        rcases decode_cases decoded with ⟨_, rfl, _⟩ | ⟨_, _, name, _⟩
        · exact absurd rfl quiet
        · rw [name]
          rfl
      refine ⟨x, ?_, awaits_of_evaluate steady quiet ok wait⟩
      rw [named_concat, if_pos name, List.getLast?_concat]
      rfl

theorem Tracks.elapse (tracks : r.Tracks answers reports s)
    (ok : (elapse time s).failure = none) : r.Tracks answers reports (elapse time s).state := by
  have ok' : (r.react time .timeout s).failure = none := ok
  have settled : (r.react time .timeout s).state.Settled := tracks.settled.react ok'
  rw [react] at settled
  cases wait : s.wait with
  | input =>
    simp only [Recognizer.elapse, wait]
    exact tracks
  | armed a due =>
    simp only [Recognizer.elapse, wait] at ok settled ⊢
    refine ⟨settled, ?_, fun b due wait => ?_⟩
    · rw [fire_state ok]
      exact tracks.last
    · rw [fire_wait ok] at wait
      split at wait <;> cases wait
  | repeating a last =>
    simp only [Recognizer.elapse, wait] at settled ⊢
    exact ⟨settled, tracks.last, fun b due wait => by cases wait⟩

theorem Exact.le (gap : Exact x y) : x.time ≤ y.time := by
  obtain ⟨millis, elapsed, same⟩ := gap
  have positive : (0 : Rat) ≤ millis := by exact_mod_cast elapsedBetween_nonneg elapsed
  linarith

theorem Tracks.play (tracks : r.Tracks answers reports s) (steady : r.host.Steady answers) {schedule : Schedule}
    (stamped : (named (reports ++ schedule.arrivals)).IsChain Exact) (ok : (r.play schedule s).failure = none) :
    r.Tracks answers (reports ++ schedule.arrivals) (r.play schedule s).state := by
  induction schedule generalizing reports s with
  | nil => rwa [Schedule.arrivals, List.filterMap_nil, List.append_nil]
  | cons next rest ih =>
    obtain ⟨time, stimulus⟩ := next
    obtain ⟨first, ok⟩ := Outcome.failure_andThen_eq_none.mp ok
    rw [Recognizer.play, Outcome.andThen_of_ok first]
    cases stimulus with
    | timeout => exact ih (tracks.elapse first) stamped ok
    | report raw =>
      have parts : Schedule.arrivals ((time, .report raw) :: rest) = ⟨time, raw⟩ :: Schedule.arrivals rest := rfl
      rw [parts, List.append_cons] at stamped ⊢
      refine ih (tracks.receive (x := ⟨time, raw⟩) steady (fun y member name => ?_) first) stamped ok
      rw [named_append, named_concat, if_pos name] at stamped
      have chain := (List.isChain_append.mp stamped).1
      exact ((List.isChain_append.mp chain).2.2 y member ⟨time, raw⟩ rfl).le

theorem Awaits.evaluate (awaits : r.Awaits answers y s.buffer a due) (ordered : Action.InRank r.table)
    (steady : r.host.Steady answers) {batch : List Event} (soon : ∀ e ∈ batch, e.elapsed ≤ s.buffer.maxMillis)
    (kept : s.buffer.extendLost batch = []) (spares : s.buffer.Spares batch) (time : Rat) :
    let recorded := { s.buffer with events := s.buffer.events ++ batch }
    let next := r.evaluate time batch s
    let shown (notes : List Note) : List Step :=
      .recorded batch recorded :: .phase .evaluating :: notes.map .noted
    ∃ b ∈ r.table, b.rank ≤ a.rank ∧ b.OccursIn recorded.tokens ∧ ∃ notes,
      (b.condition.outcome r.android answers = .ok true ∧ next.failure = none ∧
          next.state.wait = .armed b (time + s.buffer.maxMillis) ∧
          next.entries = entriesAt time (shown notes ++ [.phase .armed, .armed b]) ∨
        ∃ e, b.condition.outcome r.android answers = .error e ∧ ¬b.OccursIn s.buffer.tokens ∧
          next.failure = some (.regex e) ∧ next.entries = entriesAt time (shown notes)) := by
  intro recorded next shown
  have extended : s.buffer.extend batch = recorded := Buffer.extend_of_soon awaits.live soon kept spares
  have longer : s.buffer.tokens <:+: recorded.tokens := by
    rw [Buffer.tokens, Buffer.tokens, List.map_append]
    exact (List.prefix_append _ _).isInfix
  obtain ⟨b, member, before, occurs, ends, told⟩ := ends_of_more ordered awaits.found longer
  let search := r.candidate time recorded.tokens { received := s.received } r.table
  have start : answers.Agrees { received := s.received } := ⟨by simp, by simp, by simp⟩
  have searched : search.1 = Action.found r.android answers (some b) := by
    rw [candidate_of_steady steady time _ start, ends]
  have entries : next.entries = entriesAt time (shown search.2.notes ++ verdict search.1) := by
    rw [evaluate_entries, evaluationSteps, extended, kept]
    rfl
  refine ⟨b, member, before, occurs, search.2.notes, ?_⟩
  rcases told with holds | ⟨e, untold, absent⟩
  · have found : search.1 = .ok (some b) := by
      rw [searched, Action.found, holds]
      rfl
    obtain ⟨ok, wait⟩ := evaluate_of_found (by rw [extended]; exact found) awaits.patient
    exact .inl ⟨holds, ok, wait, by rw [entries, found]; rfl⟩
  · have failed : search.1 = .error e := by
      rw [searched, Action.found, untold]
      rfl
    refine .inr ⟨e, untold, absent, ?_, ?_⟩
    · refine (failure_evaluate r time batch s (.regex e)).mpr (.inl ⟨e, ?_, rfl⟩)
      rw [extended]
      exact failed
    · rw [entries, failed]
      exact congrArg (entriesAt time) (List.append_nil _)

end

theorem elapsed_eventsOf {button : Button} {value : Option Int} {millis : Int} {e : Event}
    (member : e ∈ Decoder.eventsOf button value millis) : e.elapsed = millis := by
  cases value with
  | none =>
    rcases List.mem_pair.mp member with rfl | rfl
    · rfl
    · rfl
  | some level =>
    rw [List.mem_singleton.mp member]

/-- The events that a report brings, without the releases that are owed. -/
def State.batch (s : State) (raw : Raw) : List Event :=
  match s.decoder.decode raw with
  | .ok (events, _) => (dropOwed s.owed events).1
  | .error _ => []

/-- With a table that was read from a text, a host that always answers alike and stamps that tell the time,
    an armed action gives way to one of at least its rank only. A report that comes within its wait brings
    events of which no edge is found lost and no chatter removed. Then the buffer keeps all that it held, and
    the search that follows ends with an action that is not after the armed one: either this action is armed,
    or its condition cannot be told. In that case the run fails with the expression of the condition, and the
    pattern occurs only with the new events. A timed run goes as one of the schedules; others go on waiting
    when the report comes just when the wait runs out. -/
theorem gives_way_upward (r : Recognizer) {config : String} (read : Action.compile config = .ok r.table)
    {answers : Answers} (steady : r.host.Steady answers) (buffer : Buffer) {before : Schedule} {x : Arrival}
    (stamped : (named (before.arrivals ++ [x])).IsChain Exact) {s : State} {entries : List Entry}
    (reached : r.play before { buffer := buffer } = ⟨s, entries, none⟩) {a : Action} {due : Rat}
    (armed : s.wait = .armed a due) (within : x.time ≤ due) (arrived : s.batch x.raw ≠ [])
    (kept : s.buffer.extendLost (s.batch x.raw) = []) (spares : s.buffer.Spares (s.batch x.raw)) :
    let recorded := { s.buffer with events := s.buffer.events ++ s.batch x.raw }
    let next := r.receive x.time x.raw s
    let shown (notes : List Note) : List Step :=
      [.received s.received, .abandoned a, .phase .idle, .recorded (s.batch x.raw) recorded,
        .phase .evaluating] ++ notes.map .noted
    ∃ b ∈ r.table, b.rank ≤ a.rank ∧ b.OccursIn recorded.tokens ∧ ∃ notes,
      (b.condition.outcome r.android answers = .ok true ∧ next.failure = none ∧
          next.state.wait = .armed b (x.time + s.buffer.maxMillis) ∧
          next.entries = entriesAt x.time (shown notes ++ [.phase .armed, .armed b]) ∨
        ∃ e, b.condition.outcome r.android answers = .error e ∧ ¬b.OccursIn s.buffer.tokens ∧
          next.failure = some (.regex e) ∧ next.entries = entriesAt x.time (shown notes)) := by
  intro recorded next shown
  rw [named_append] at stamped
  have tracks : r.Tracks answers before.arrivals s := by
    have ok : (r.play before { buffer := buffer }).failure = none := by rw [reached]
    have played := (tracks_start r answers buffer).play steady stamped.left_of_append ok
    rwa [reached] at played
  obtain ⟨last, member, awaits⟩ := tracks.armed a due armed
  cases name : x.raw.button? with
  | none =>
    have nothing : s.batch x.raw = [] := by
      rw [State.batch, Decoder.decode_of_unnamed name]
      rfl
    exact absurd nothing arrived
  | some button =>
    -- The report comes within the wait, hence within the silence since the last one that named a button.
    have one : named [x] = [x] := List.filter_cons_of_pos (by simp [name])
    obtain ⟨millis, elapsed, same⟩ := (List.isChain_append.mp stamped).2.2 last member x (by rw [one]; rfl)
    have short : millis ≤ s.buffer.maxMillis := by
      have short : (millis : Rat) ≤ s.buffer.maxMillis := by linarith [awaits.due]
      exact_mod_cast short
    have decoded : s.decoder.decode x.raw =
        .ok (Decoder.eventsOf button x.raw.value millis, ⟨some x.raw.timestamp⟩) := by
      refine Decoder.decode_eq_ok name ?_
      rw [Decoder.elapsed, tracks.last, member]
      exact elapsed
    have batch : s.batch x.raw = (dropOwed s.owed (Decoder.eventsOf button x.raw.value millis)).1 := by
      rw [State.batch, decoded]
    have soon : ∀ e ∈ s.batch x.raw, e.elapsed ≤ s.buffer.maxMillis := by
      intro e among
      rw [batch] at among
      exact (elapsed_eventsOf ((dropOwed_sublist _ _).subset among)).trans_le short
    have taken : next = _ := receive_batch tracks.settled decoded (batch ▸ arrived)
    rw [← batch, armed] at taken
    obtain ⟨b, there, before, occurs, notes, told⟩ := awaits.evaluate (s := (s.taking _ _).idle)
      (Action.inRank_of_compile read) steady soon kept spares x.time
    refine ⟨b, there, before, occurs, notes, ?_⟩
    rw [taken, Outcome.andThen_mk]
    rcases told with ⟨holds, ok, wait, shown⟩ | ⟨e, untold, absent, failed, shown⟩
    · exact .inl ⟨holds, ok, wait, by rw [shown]; rfl⟩
    · exact .inr ⟨e, untold, absent, failed, by rw [shown]; rfl⟩

def pressOrClickLines : List String :=
  ["action=cmd(a),vd-press,always", "action=cmd(b),vd,android"]

def onPress : Action :=
  ⟨"cmd(a)", .shell "a", [Button.volumeDown.token .press], .always, "always"⟩

def onClick : Action :=
  ⟨"cmd(b)", .shell "b", [Button.volumeDown.token .press, Button.volumeDown.token .release], .android, "android"⟩

def inLayer : Answers :=
  ⟨.failed, .answered (some "alien"), .failed⟩

def pressOrClick (android : String) : Recognizer where
  table := [onClick, onPress]
  host := ⟨fun _ => inLayer.locked, fun _ => inLayer.foreground, fun _ => inLayer.title⟩
  android := android

theorem steady_pressOrClick (android : String) : (pressOrClick android).host.Steady inLayer :=
  ⟨fun _ => rfl, fun _ => rfl, fun _ => rfl⟩

theorem compile_pressOrClickLines (android : String) :
    Action.compile ("\n".intercalate pressOrClickLines) = .ok (pressOrClick android).table := by
  have bodies : (Text.lines ("\n".intercalate pressOrClickLines).toList).filterMap Action.body? =
      pressOrClickLines := by decide +kernel
  have press : Action.parseLine "action=cmd(a),vd-press,always" = .ok onPress := by decide +kernel
  have click : Action.parseLine "action=cmd(b),vd,android" = .ok onClick := by decide +kernel
  have ordered : Action.InRank [onClick, onPress] :=
    List.Pairwise.imp Action.ranksBefore_iff.mp (by decide +kernel)
  have apart : ([onClick, onPress].map Action.rank).Nodup := by decide +kernel
  exact Action.compile_of_apart bodies (.cons press (.cons click .nil)) ordered (.swap ..) apart

def keyDown : Schedule :=
  [(0, .report (levelAt 0 .volumeDown 1).raw)]

def keyUp : Arrival :=
  levelAt 50 .volumeDown 0

theorem stamped_keyUp : (named (keyDown.arrivals ++ [keyUp])).IsChain Exact := by
  have gap : Exact (levelAt 0 .volumeDown 1) keyUp :=
    ⟨50, by decide +kernel, by norm_num [keyUp, levelAt]⟩
  exact .cons_cons gap (.singleton keyUp)

theorem gives_way_upward_pressOrClick :
    let r := pressOrClick defaultAndroidPattern
    let s := (r.play keyDown {}).state
    let next := r.receive keyUp.time keyUp.raw s
    s.wait = .armed onPress 350 ∧ s.batch keyUp.raw = [⟨.volumeDown, .release, 50⟩] ∧
      next.state.wait = .armed onClick 400 ∧
      ∃ b ∈ r.table, b.rank ≤ onPress.rank ∧ next.state.wait = .armed b (keyUp.time + s.buffer.maxMillis) := by
  intro r s next
  have reached : r.play keyDown {} = ⟨s, (r.play keyDown {}).entries, none⟩ := by
    have ok : (r.play keyDown {}).failure = none := by decide +kernel
    rw [← ok]
  have armed : s.wait = .armed onPress 350 := by decide +kernel
  have batch : s.batch keyUp.raw = [⟨.volumeDown, .release, 50⟩] := by decide +kernel
  have received : next = r.receive keyUp.time keyUp.raw s := rfl
  obtain ⟨b, member, before, _, notes, told⟩ :=
    gives_way_upward r (compile_pressOrClickLines _) (steady_pressOrClick _) {} stamped_keyUp reached armed
      (by norm_num [keyUp, levelAt]) (by rw [batch]; exact List.cons_ne_nil _ _)
      (by decide +kernel) (by rw [batch]; exact ⟨by decide +kernel, trivial⟩)
  rw [← received] at told
  refine ⟨armed, batch, by decide +kernel, b, member, before, ?_⟩
  rcases told with ⟨_, _, wait, _⟩ | ⟨e, _, _, failed, _⟩
  · exact wait
  · have ok : next.failure = none := by decide +kernel
    rw [ok] at failed
    cases failed

/-- With an expression for the layer that does not compile, the action of the press gives way to none: the
    click asks for the layer, and the run fails. -/
theorem abandoned_for_none :
    let r := pressOrClick "("
    let s := (r.play keyDown {}).state
    let next := r.receive keyUp.time keyUp.raw s
    Action.compile ("\n".intercalate pressOrClickLines) = .ok r.table ∧ r.host.Steady inLayer ∧
      (named (keyDown.arrivals ++ [keyUp])).IsChain Exact ∧ 0 ≤ s.buffer.maxMillis ∧
      (r.play keyDown {}).failure = none ∧ s.wait = .armed onPress 350 ∧ keyUp.time ≤ 350 ∧
      s.batch keyUp.raw = [⟨.volumeDown, .release, 50⟩] ∧ s.buffer.extendLost (s.batch keyUp.raw) = [] ∧
      s.buffer.Spares (s.batch keyUp.raw) ∧
      next.entries = entriesAt 50 [.received 1, .abandoned onPress, .phase .idle,
        .recorded [⟨.volumeDown, .release, 50⟩] (s.buffer.append ⟨.volumeDown, .release, 50⟩),
        .phase .evaluating, .noted (.asked .foreground)] ∧
      next.failure = some (.regex (.invalid .unterminatedGroup (some 0))) := by
  intro r s next
  have batch : s.batch keyUp.raw = [⟨.volumeDown, .release, 50⟩] := by decide +kernel
  exact ⟨compile_pressOrClickLines _, steady_pressOrClick _, stamped_keyUp, by decide +kernel,
    by decide +kernel, by decide +kernel, by norm_num [keyUp, levelAt], batch, by decide +kernel,
    by rw [batch]; exact ⟨by decide +kernel, trivial⟩, by decide +kernel, by decide +kernel⟩

end Recognizer

end Gesture
