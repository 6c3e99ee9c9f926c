import Gesture.Proofs.Onward
import Mathlib.Algebra.Order.Field.Rat
import Mathlib.Tactic.Linarith
import Mathlib.Tactic.NormNum

namespace Gesture

namespace Event

theorem heldFrom_sublist {less down : List Button} (fewer : less.Sublist down) (events : List Event) :
    (heldFrom less events).Sublist (heldFrom down events) := by
  induction events generalizing less down with
  | nil => exact fewer
  | cons e rest ih => exact ih (apply_sublist fewer e)

theorem held_tokens (events : List Event) :
    Token.held (events.map (·.token)) = (held events).map Button.shortName := by
  have names : ∀ down : List Button,
      (events.map (·.token)).foldl (fun down t => t.edge.apply down t.name)
          (down.map Button.shortName) =
        (heldFrom down events).map Button.shortName := by
    induction events with
    | nil => exact fun down => rfl
    | cons e rest ih =>
      intro down
      have step : e.token.edge.apply (down.map Button.shortName) e.token.name =
          (e.edge.apply down e.button).map Button.shortName := by
        obtain ⟨button, edge, elapsed⟩ := e
        cases edge with
        | press => simp [Event.token, Button.token, Edge.apply]
        | release => exact (List.map_erase (fun _ _ => Button.shortName_inj) down).symm
      rw [List.map_cons, List.foldl_cons, step, ih]
      rfl
  exact names []

end Event

theorem exists_last_of_matchesEnd {pattern : List Token} {b : Buffer}
    (ends : matchesEnd pattern b.tokens = true) :
    ∃ before last, b.events = before ++ last ∧ last.map (·.token) = pattern := by
  have suffix : pattern <:+ b.events.map (·.token) := by
    simpa [matchesEnd, Buffer.tokens] using (Bool.and_eq_true_iff.mp ends).2
  obtain ⟨front, same⟩ := suffix
  obtain ⟨before, last, parts, _, tokens⟩ := List.map_eq_append_iff.mp same.symm
  exact ⟨before, last, parts, tokens⟩

theorem holdReleases_eq {a : Action} {last : List Event} (pattern : last.map (·.token) = a.pattern) :
    a.holdReleases = Event.heldReleases last := by
  rw [Action.holdReleases, ← pattern, Event.held_tokens, List.map_map]
  rfl

theorem holdReleases_held {a : Action} {b : Buffer} (ends : matchesEnd a.pattern b.tokens = true) :
    ∀ t ∈ a.holdReleases, t ∈ b.heldReleases := by
  obtain ⟨before, last, parts, pattern⟩ := exists_last_of_matchesEnd ends
  have fewer : (Event.held last).Sublist (Event.held b.events) := by
    rw [parts, Event.held_append]
    exact Event.heldFrom_sublist (List.nil_sublist _) last
  rw [holdReleases_eq pattern]
  exact (fewer.map (·.token .release)).subset

namespace Recognizer

theorem le_dueCount {interval k : Nat} (positive : 0 < interval) (some : 1 ≤ k) (last time : Rat) :
    k ≤ dueCount last time interval ↔ last + k * interval ≤ time := by
  have width : (0 : Rat) < interval := by exact_mod_cast positive
  have whole : k ≤ dueCount last time interval ↔ (k : Int) ≤ ((time - last) / interval).floor := by
    unfold dueCount
    omega
  rw [whole, Rat.le_floor_iff, le_div_iff₀ width]
  constructor
  · intro due
    push_cast at due
    linarith
  · intro due
    push_cast
    linarith

theorem multiples_append (a : Action) (last : Rat) (interval n m : Nat) :
    (List.range n).map (fun (k : Nat) => (last + (k + 1) * interval, a)) ++
        (List.range m).map (fun (k : Nat) => (last + n * interval + (k + 1) * interval, a)) =
      (List.range (n + m)).map (fun (k : Nat) => (last + (k + 1) * interval, a)) := by
  have shift : ∀ k : Nat, last + n * interval + (k + 1) * interval =
      last + ((n + k : Nat) + 1) * interval := by
    intro k
    push_cast
    ring
  rw [List.range_add, List.map_append, List.map_map]
  simp only [shift]
  rfl

theorem multiples_continue {interval n m : Nat} {last time limit : Rat}
    (before : ∀ k : Nat, 1 ≤ k → (k ≤ n ↔ last + k * interval ≤ time))
    (after : ∀ k : Nat, 1 ≤ k → (k ≤ m ↔ last + n * interval + k * interval ≤ limit))
    (later : time ≤ limit) :
    ∀ k : Nat, 1 ≤ k → (k ≤ n + m ↔ last + k * interval ≤ limit) := by
  intro k some
  by_cases first : k ≤ n
  · have due : last + k * interval ≤ limit := ((before k some).mp first).trans later
    exact iff_of_true (by omega) due
  · obtain ⟨j, rfl⟩ : ∃ j, k = n + j := ⟨k - n, by omega⟩
    have shift : last + (n + j : Nat) * interval = last + n * interval + j * interval := by
      push_cast
      ring
    rw [shift, ← after j (by omega)]
    omega

/-- Whether a report ends the repetition of an action: it brings events to record, or the release of a
    button that the action's pattern leaves down. -/
def Reception.endsHold (a : Action) (y : Reception) : Bool :=
  !y.kept.isEmpty || y.events.any (a.holdReleases.contains ·.token)

/-- When the repetition of an action ends: with the first report that ends it, or with the input. -/
def holdEnd (a : Action) (endTime : Rat) (coming : List Reception) : Rat :=
  ((coming.find? (·.endsHold a)).map (·.time)).getD endTime

theorem holdEnd_cons (a : Action) (endTime : Rat) (y : Reception) (coming : List Reception) :
    holdEnd a endTime (y :: coming) = if y.endsHold a then y.time else holdEnd a endTime coming := by
  unfold holdEnd
  rw [List.find?_cons]
  cases y.endsHold a <;> rfl

theorem le_holdEnd {a : Action} {time endTime : Rat} {coming : List Reception}
    (ended : time ≤ endTime) (later : ∀ y ∈ coming, time ≤ y.time) : time ≤ holdEnd a endTime coming := by
  induction coming with
  | nil => exact ended
  | cons y rest ih =>
    obtain ⟨first, later⟩ := List.forall_mem_cons.mp later
    rw [holdEnd_cons]
    split
    · exact first
    · exact ih later

theorem release_of_dropped {owed : List Token} {events : List Event}
    (dropped : (dropOwed owed events).1 = []) : ∀ e ∈ events, e.edge = .release := by
  induction events generalizing owed with
  | nil => simp
  | cons e rest ih =>
    rw [dropOwed_cons] at dropped
    by_cases owes : e.button.token .release ∈ owed ∧ e.edge = .release
    · rw [if_pos owes] at dropped
      exact List.forall_mem_cons.mpr ⟨owes.2, ih dropped⟩
    · rw [if_neg owes] at dropped
      cases dropped

/-- While all releases that end a repetition are owed, it ends with the first of them to arrive. -/
theorem isReleased_iff {a : Action} {owed : List Token} {events : List Event}
    (owes : ∀ t ∈ a.holdReleases, t ∈ owed) (dropped : (dropOwed owed events).1 = []) :
    isReleased a (dropOwed owed events).2 = true ↔ ∃ e ∈ events, e.token ∈ a.holdReleases := by
  have token : ∀ e ∈ events, e.token = e.button.token .release := by
    intro e member
    rw [Event.token, release_of_dropped dropped e member]
  simp only [isReleased, List.any_eq_true, Bool.not_eq_true', List.contains_eq_mem, decide_eq_false_iff_not,
    mem_owed_after, not_and, not_forall, not_not]
  constructor
  · rintro ⟨t, ends, gone⟩
    obtain ⟨e, member, same⟩ := gone (owes t ends)
    exact ⟨e, member, by rwa [token e member, same]⟩
  · rintro ⟨e, member, ends⟩
    exact ⟨e.token, ends, fun _ => ⟨e, member, (token e member).symm⟩⟩

def Entry.execution? (e : Entry) : Option (Rat × Action) :=
  match e.step with
  | .executed a => some (e.instant, a)
  | _ => none

def executionsUntilIdle (entries : List Entry) : List (Rat × Action) :=
  (entries.takeWhile (·.step ≠ .phase .idle)).filterMap Entry.execution?

theorem executionsUntilIdle_cons (e : Entry) (rest : List Entry) :
    executionsUntilIdle (e :: rest) =
      if e.step = .phase .idle then [] else e.execution?.toList ++ executionsUntilIdle rest := by
  unfold executionsUntilIdle
  rw [List.takeWhile_cons]
  by_cases idle : e.step = .phase .idle
  · simp [idle]
  · simp only [ne_eq, idle, not_false_eq_true, decide_true, if_true, if_false, List.filterMap_cons]
    cases e.execution? <;> rfl

theorem executionsUntilIdle_append {closing : List Entry}
    (none : ∀ e ∈ closing, e.execution? = none) (entries : List Entry) :
    executionsUntilIdle (entries ++ closing) = executionsUntilIdle entries := by
  induction entries with
  | nil =>
    refine List.filterMap_eq_nil_iff.mpr fun e member => none e ?_
    exact (List.takeWhile_sublist _).subset member
  | cons e rest ih => rw [List.cons_append, executionsUntilIdle_cons, executionsUntilIdle_cons, ih]

theorem executionsUntilIdle_repetitions (a : Action) (last : Rat) (interval count : Nat)
    (rest : List Entry) :
    executionsUntilIdle (repetitions a last interval count ++ rest) =
      (List.range count).map (fun (k : Nat) => (last + (k + 1) * interval, a)) ++
        executionsUntilIdle rest := by
  unfold repetitions
  induction List.range count with
  | nil => rfl
  | cons k more ih =>
    rw [List.map_cons, List.cons_append, executionsUntilIdle_cons, ih]
    rfl

section

variable {r : Recognizer} {time endTime last : Rat} {a : Action} {s : State} {interval : Nat}
  {raw : Raw} {events : List Event} {decoder : Decoder}

theorem receive_stops (settled : s.Settled) (wait : s.wait = .repeating a last)
    (owes : ∀ t ∈ a.holdReleases, t ∈ s.owed)
    (decoded : s.decoder.decode raw = .ok (events, decoder))
    (ends : Reception.endsHold a ⟨time, events, (dropOwed s.owed events).1⟩ = true) :
    ∃ more, (r.receive time raw s).entries =
      entriesAt time [.received s.received, .stopped a, .phase .idle] ++ more := by
  by_cases quiet : (dropOwed s.owed events).1 = []
  · have ended : (s.taking events decoder).holdEnded = true := by
      simp only [State.holdEnded, State.taking, wait]
      rw [isReleased_iff owes quiet]
      simpa [Reception.endsHold, quiet] using ends
    rw [receive_quiet settled decoded quiet, if_pos ended, wait]
    exact ⟨[], (List.append_nil _).symm⟩
  · rw [receive_batch settled decoded quiet, Outcome.andThen_mk, wait]
    exact ⟨_, rfl⟩

theorem receive_continues (settled : s.Settled) (wait : s.wait = .repeating a last)
    (owes : ∀ t ∈ a.holdReleases, t ∈ s.owed)
    (decoded : s.decoder.decode raw = .ok (events, decoder))
    (continues : Reception.endsHold a ⟨time, events, (dropOwed s.owed events).1⟩ = false) :
    r.receive time raw s =
        ⟨s.taking events decoder, entriesAt time [.received s.received], none⟩ ∧
      ∀ t ∈ a.holdReleases, t ∈ (s.taking events decoder).owed := by
  obtain ⟨quiet, others⟩ : (dropOwed s.owed events).1 = [] ∧
      ¬∃ e ∈ events, e.token ∈ a.holdReleases := by
    simpa [Reception.endsHold] using continues
  have held : isReleased a (dropOwed s.owed events).2 = false := by
    rwa [← isReleased_iff owes quiet, Bool.not_eq_true] at others
  have goes : (s.taking events decoder).holdEnded = false := by
    simp only [State.holdEnded, State.taking, wait]
    exact held
  constructor
  · rw [receive_quiet settled decoded quiet, goes]
    rfl
  · simpa [isReleased, State.taking] using held

theorem expire_repeating (wait : s.wait = .repeating a last) (repeats : a.interval? = some interval)
    (time : Rat) :
    let n := dueCount last time interval
    expire time s =
      ⟨{ s with wait := .repeating a (last + n * interval) }, repetitions a last interval n, none⟩ := by
  rw [expire_of_early (early_of_repeating wait), repeatUntil_repeating wait, repeats, Option.getD_some]

theorem onward_cons_repeating {x : Arrival} {rest : List Arrival} (wait : s.wait = .repeating a last)
    (repeats : a.interval? = some interval) (ok : (r.onward endTime (x :: rest) s).failure = none) :
    let n := dueCount last x.time interval
    let taken := r.receive x.time x.raw { s with wait := .repeating a (last + n * interval) }
    let later := r.onward endTime rest taken.state
    taken.failure = none ∧ later.failure = none ∧
      (r.onward endTime (x :: rest) s).entries =
        repetitions a last interval n ++ (taken.entries ++ later.entries) := by
  dsimp only
  rw [onward_cons, expire_repeating wait repeats, Outcome.andThen_mk] at ok ⊢
  obtain ⟨taken, later⟩ := Outcome.failure_andThen_eq_none.mp ok
  rw [Outcome.andThen_of_ok taken]
  exact ⟨taken, later, rfl⟩

theorem onward_repeating {arrivals : List Arrival} {acc : Account} {all : List Raw}
    (balanced : Balanced acc s [] (arrivals.map (·.raw)) all) (inTime : InTime arrivals endTime)
    (wait : s.wait = .repeating a last) (repeats : a.interval? = some interval)
    (positive : 0 < interval) (owes : ∀ t ∈ a.holdReleases, t ∈ s.owed)
    (ok : (r.onward endTime arrivals s).failure = none) :
    let entries := (r.onward endTime arrivals s).entries
    ∃ (coming : List Reception) (n : Nat), (acc.follow entries).received = acc.received ++ coming ∧
      coming.map (·.time) = arrivals.map (·.time) ∧
      executionsUntilIdle entries =
        (List.range n).map (fun (k : Nat) => (last + (k + 1) * interval, a)) ∧
      ∀ k : Nat, 1 ≤ k → (k ≤ n ↔ last + k * interval ≤ holdEnd a endTime coming) := by
  induction arrivals generalizing s acc last with
  | nil =>
    dsimp only
    rw [onward_nil] at ok ⊢
    rw [received_expire ok, expire_repeating wait repeats]
    refine ⟨[], dueCount last endTime interval, (List.append_nil _).symm, rfl, ?_, ?_⟩
    · rw [← List.append_nil (repetitions _ _ _ _), executionsUntilIdle_repetitions]
      exact List.append_nil _
    · exact fun k some => le_dueCount positive some last endTime
  | cons x rest ih =>
    let n := dueCount last x.time interval
    have before : ∀ k : Nat, 1 ≤ k → (k ≤ n ↔ last + k * interval ≤ x.time) :=
      fun k some => le_dueCount positive some last x.time
    have balanced' := balanced.repeating wait (last + n * interval)
    obtain ⟨taken, ok, entries⟩ := onward_cons_repeating wait repeats ok
    dsimp only
    rw [entries, executionsUntilIdle_repetitions, Account.follow_append, Account.follow_append,
      follow_repetitions]
    obtain ⟨events, decoder, decoded⟩ := decoded_of_ok taken
    let y : Reception := ⟨x.time, events, (dropOwed s.owed events).1⟩
    have received := balanced'.received_receive decoded r x.time
    have balanced'' := balanced'.receive taken
    cases ends : y.endsHold a with
    | true =>
      -- Right after the report the recognizer is idle, so that nothing later counts.
      obtain ⟨more, shown⟩ := receive_stops (r := r) balanced'.settled rfl owes decoded ends
      obtain ⟨coming, received', arrive⟩ := onward_received balanced'' ok
      refine ⟨y :: coming, n, ?_, ?_, ?_, ?_⟩
      · rw [received', received, List.append_assoc]
        rfl
      · rw [List.map_cons, List.map_cons, arrive]
      · rw [shown, List.append_assoc]
        exact List.append_nil _
      · rw [holdEnd_cons, if_pos ends]
        exact before
    | false =>
      -- The repetition goes on from the last multiple before the report, and the counts add up.
      obtain ⟨quiet, owes'⟩ := receive_continues (r := r) balanced'.settled rfl owes decoded ends
      rw [quiet] at ok received balanced'' ⊢
      obtain ⟨coming, m, received', arrive, executed, after⟩ :=
        ih balanced'' inTime.tail rfl owes' ok
      have arrives : (y :: coming).map (·.time) = (x :: rest).map (·.time) := by
        rw [List.map_cons, List.map_cons, arrive]
      refine ⟨y :: coming, n + m, ?_, arrives, ?_, ?_⟩
      · rw [received', received, List.append_assoc]
        rfl
      · rw [← multiples_append, ← executed]
        rfl
      · have first : x.time ≤ holdEnd a endTime (y :: coming) :=
          le_holdEnd (inTime.ended x List.mem_cons_self) fun y member =>
            inTime.later y.time (arrives ▸ List.mem_map_of_mem member)
        rw [holdEnd_cons, ends] at first ⊢
        exact multiples_continue before after first

end

end Recognizer

end Gesture
