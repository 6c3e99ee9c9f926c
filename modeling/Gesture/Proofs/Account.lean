import Gesture.Proofs.Owed
import Gesture.Proofs.Schedule
import Mathlib.Data.Finset.Basic
import Mathlib.Data.Finset.Dedup

namespace Gesture

/-- The events of reports, report by report, up to the first that cannot be decoded. -/
def Decoder.batches : Decoder → List Raw → List (List Event)
  | _, [] => []
  | d, raw :: rest =>
    match d.decode raw with
    | .error _ => []
    | .ok (events, d) => events :: d.batches rest

namespace Recognizer

/-- A report that was received: when, its events, and those of them that were kept. -/
structure Reception where
  time : Rat
  events : List Event
  kept : List Event
  deriving DecidableEq, Repr

/-- An account of the events that are still to come, of the reports received, and of the batches of
    events recorded. The releases in `held` become owed at the next firing. -/
structure Account where
  coming : List (List Event)
  owed : Finset Token := ∅
  held : List Token := []
  received : List Reception := []
  recorded : List (List Event) := []

namespace Account

/-- The events that are kept when they arrive one by one, and what is owed after them. Only a release
    that is owed is not kept; any event of a button settles what is owed for it. -/
def sift (owed : Finset Token) : List Event → List Event × Finset Token
  | [] => ([], owed)
  | e :: rest =>
    let release := e.button.token .release
    let later := sift (owed.erase release) rest
    if e.edge = .release ∧ release ∈ owed then later else (e :: later.1, later.2)

def enter (a : Account) (e : Entry) : Account :=
  match e.step with
  | .received _ =>
    match a.coming with
    | [] => a
    | events :: coming =>
      let sifted := sift a.owed events
      { a with
        coming := coming
        owed := sifted.2
        received := a.received ++ [⟨e.instant, events, sifted.1⟩] }
  | .recorded events buffer =>
    { a with recorded := a.recorded ++ [events], held := buffer.heldReleases }
  | .firing _ => { a with owed := a.owed ∪ a.held.toFinset, held := [] }
  | _ => a

def follow (a : Account) (entries : List Entry) : Account :=
  entries.foldl enter a

/-- The batches of events that were kept of the reports, apart from empty ones. -/
def batches (a : Account) : List (List Event) :=
  (a.received.map (·.kept)).filter (· ≠ [])

def opened (buffer : Buffer) (raws : List Raw) : Account where
  coming := Decoder.batches {} raws
  held := buffer.heldReleases

theorem follow_append (a : Account) (left right : List Entry) :
    a.follow (left ++ right) = (a.follow left).follow right :=
  List.foldl_append

theorem sift_eq_dropOwed {account : Finset Token} {owed : List Token}
    (same : ∀ t, t ∈ account ↔ t ∈ owed) (events : List Event) :
    (sift account events).1 = (dropOwed owed events).1 ∧
      ∀ t, t ∈ (sift account events).2 ↔ t ∈ (dropOwed owed events).2 := by
  induction events generalizing account owed with
  | nil => exact ⟨rfl, same⟩
  | cons e rest ih =>
    let release := e.button.token .release
    have settled : ∀ t, t ∈ account.erase release ↔ t ∈ owed.filter (· != release) := by
      intro t
      rw [Finset.mem_erase, List.mem_filter, bne_iff_ne, same t, and_comm]
    obtain ⟨kept, left⟩ := ih settled
    rw [dropOwed_cons]
    by_cases consumed : e.edge = .release ∧ release ∈ account
    · have owes : release ∈ owed ∧ e.edge = .release := ⟨(same release).mp consumed.2, consumed.1⟩
      rw [sift, if_pos consumed, if_pos owes]
      exact ⟨kept, left⟩
    · have free : ¬(release ∈ owed ∧ e.edge = .release) :=
        fun owes => consumed ⟨owes.2, (same release).mpr owes.1⟩
      rw [sift, if_neg consumed, if_neg free]
      exact ⟨congrArg (e :: ·) kept, left⟩

end Account

/-- How an account agrees with a recognizer that is still to record the batches in `due`, and to get the
    reports in `raws` of all. -/
structure Balanced (a : Account) (s : State) (due : List (List Event)) (raws all : List Raw) : Prop where
  settled : s.Settled
  coming : a.coming = s.decoder.batches raws
  decoded : a.received.map (·.events) ++ a.coming = Decoder.batches {} all
  counted : a.received.length + raws.length = all.length
  received : s.received = a.received.length
  owed : ∀ t, t ∈ a.owed ↔ t ∈ s.owed
  held : a.held = s.buffer.heldReleases
  recorded : a.recorded ++ due = a.batches

theorem balanced_opened (buffer : Buffer) (raws : List Raw) :
    Balanced (.opened buffer raws) { buffer := buffer } [] raws raws where
  settled := settled_start buffer
  coming := rfl
  decoded := rfl
  counted := Nat.zero_add _
  received := rfl
  owed := by simp [Account.opened]
  held := rfl
  recorded := rfl

theorem follow_break (a : Account) (time : Rat) (wait : Wait) :
    a.follow (entriesAt time (breakSteps wait)) = a := by
  cases wait <;> rfl

theorem follow_evaluate (r : Recognizer) (a : Account) (time : Rat) (events : List Event) (s : State) :
    a.follow (r.evaluate time events s).entries =
      { a with
        recorded := a.recorded ++ [events]
        held := (s.buffer.extend events).heldReleases } := by
  rw [Account.follow, foldl_evaluate (fun _ _ _ => rfl) (fun _ _ _ => rfl)]
  generalize (r.candidate _ _ _ _).1 = result
  rcases result with e | _ | found <;> rfl

theorem follow_fire (a : Account) (time : Rat) (action : Action) (s : State) :
    a.follow (fire time action s).entries =
      { a with owed := a.owed ∪ a.held.toFinset, held := [] } := by
  rw [fire_entries, firingEnd]
  split <;> rfl

section

variable {r : Recognizer} {a : Account} {s : State} {due : List (List Event)} {raws all : List Raw}

theorem Balanced.enter {raw : Raw} {events : List Event} {decoder : Decoder}
    (balanced : Balanced a s due (raw :: raws) all)
    (decoded : s.decoder.decode raw = .ok (events, decoder)) (time : Rat) :
    a.follow (entriesAt time [.received s.received]) =
      { a with
        coming := decoder.batches raws
        owed := (Account.sift a.owed events).2
        received := a.received ++ [⟨time, events, (dropOwed s.owed events).1⟩] } := by
  have coming := balanced.coming
  simp only [Decoder.batches, decoded] at coming
  rw [← (Account.sift_eq_dropOwed balanced.owed events).1]
  simp only [entriesAt, Account.follow, List.map_cons, List.map_nil, List.foldl_cons,
    List.foldl_nil, Account.enter, coming]

theorem Balanced.taking {raw : Raw} {events : List Event} {decoder : Decoder}
    (balanced : Balanced a s [] (raw :: raws) all)
    (readable : s.decoder.decode raw = .ok (events, decoder)) (time : Rat) :
    Balanced (a.follow (entriesAt time [.received s.received])) (s.taking events decoder)
      ([(dropOwed s.owed events).1].filter (· ≠ [])) raws all := by
  rw [balanced.enter readable]
  obtain ⟨settled, coming, decoded, counted, received, owed, held, recorded⟩ := balanced
  simp only [Decoder.batches, readable] at coming
  refine ⟨settled.taking events decoder, rfl, ?_, ?_, ?_, ?_, held, ?_⟩
  · rw [← decoded, coming, List.map_append, List.append_assoc]
    rfl
  · rw [List.length_append, List.length_singleton, Nat.add_assoc, Nat.add_comm 1]
    exact counted
  · rw [List.length_append, List.length_singleton, ← received]
    rfl
  · exact (Account.sift_eq_dropOwed owed events).2
  · rw [Account.batches, List.map_append, List.filter_append]
    rw [List.append_nil] at recorded
    rw [recorded]
    rfl

theorem Balanced.accept {time : Rat} {batch : List Event}
    (balanced : Balanced a s ([batch].filter (· ≠ [])) raws all)
    (ok : (r.accept time batch s).failure = none) :
    Balanced (a.follow (r.accept time batch s).entries) (r.accept time batch s).state [] raws all := by
  obtain ⟨settled, coming, decoded, counted, received, owed, held, recorded⟩ := balanced
  have settled' := settled.accept ok
  by_cases arrived : batch = []
  · subst arrived
    rw [accept_nil settled] at settled' ⊢
    split
    · rw [follow_break]
      exact ⟨settled.idle, coming, decoded, counted, received, owed, held, recorded⟩
    · exact ⟨settled, coming, decoded, counted, received, owed, held, recorded⟩
  · rw [accept_batch settled arrived, Outcome.andThen_mk] at ok settled' ⊢
    rw [Account.follow_append, follow_break, follow_evaluate]
    have single : [batch].filter (· ≠ []) = [batch] := by simp [arrived]
    rw [single, ← List.append_nil (a.recorded ++ [batch])] at recorded
    dsimp only at ok settled' ⊢
    rw [evaluate_state ok] at settled' ⊢
    exact ⟨settled', coming, decoded, counted, received, owed, rfl, recorded⟩

theorem Balanced.receive {time : Rat} {raw : Raw} (balanced : Balanced a s [] (raw :: raws) all)
    (ok : (r.receive time raw s).failure = none) :
    Balanced (a.follow (r.receive time raw s).entries) (r.receive time raw s).state [] raws all := by
  obtain ⟨events, decoder, decoded⟩ := decoded_of_ok ok
  rw [receive_decoded decoded, Outcome.andThen_mk] at ok ⊢
  rw [Account.follow_append]
  exact (balanced.taking decoded time).accept ok

theorem received_accept (settled : s.Settled) (a : Account) (r : Recognizer) (time : Rat)
    (batch : List Event) : (a.follow (r.accept time batch s).entries).received = a.received := by
  by_cases arrived : batch = []
  · rw [arrived, accept_nil settled]
    split
    · rw [follow_break]
    · rfl
  · rw [accept_batch settled arrived, Outcome.andThen_mk, Account.follow_append, follow_break,
      follow_evaluate]

theorem Balanced.received_receive {raw : Raw} {events : List Event} {decoder : Decoder}
    (balanced : Balanced a s due (raw :: raws) all)
    (decoded : s.decoder.decode raw = .ok (events, decoder)) (r : Recognizer) (time : Rat) :
    (a.follow (r.receive time raw s).entries).received =
      a.received ++ [⟨time, events, (dropOwed s.owed events).1⟩] := by
  rw [receive_decoded decoded, Outcome.andThen_mk, Account.follow_append, balanced.enter decoded,
    received_accept (balanced.settled.taking events decoder)]

theorem Balanced.fire {time : Rat} {action : Action} (balanced : Balanced a s [] raws all)
    (ok : (fire time action s).failure = none) :
    Balanced (a.follow (fire time action s).entries) (fire time action s).state [] raws all := by
  obtain ⟨settled, coming, decoded, counted, received, owed, held, recorded⟩ := balanced
  have settled' := settled.fire ok
  rw [follow_fire]
  rw [fire_state ok] at settled' ⊢
  refine ⟨settled', coming, decoded, counted, received, ?_, rfl, recorded⟩
  intro t
  rw [Finset.mem_union, List.mem_toFinset, held, owed t, mem_oweMore]

theorem Balanced.repeating {action : Action} {last : Rat} (balanced : Balanced a s [] raws all)
    (wait : s.wait = .repeating action last) (later : Rat) :
    Balanced a { s with wait := .repeating action later } [] raws all := by
  obtain ⟨settled, coming, decoded, counted, received, owed, held, recorded⟩ := balanced
  refine ⟨⟨settled.pending, ?_⟩, coming, decoded, counted, received, owed, held, recorded⟩
  rw [settled.phase, wait]
  rfl

theorem Balanced.elapse {time : Rat} (balanced : Balanced a s [] raws all)
    (ok : (elapse time s).failure = none) :
    Balanced (a.follow (elapse time s).entries) (elapse time s).state [] raws all := by
  cases wait : s.wait with
  | input =>
    simp only [Recognizer.elapse, wait]
    exact balanced
  | armed action deadline =>
    simp only [Recognizer.elapse, wait] at ok ⊢
    exact balanced.fire ok
  | repeating action last =>
    simp only [Recognizer.elapse, wait]
    exact balanced.repeating wait time

theorem follow_repeatUntil (a : Account) (time : Rat) (s : State) :
    a.follow (repeatUntil time s).entries = a := by
  apply foldl_of_idle
  intro e member a
  obtain ⟨action, last, _, shown⟩ := mem_repeatUntil member
  simp only [Account.enter, shown]

theorem follow_repetitions (acc : Account) (a : Action) (last : Rat) (interval count : Nat) :
    acc.follow (repetitions a last interval count) = acc := by
  apply foldl_of_idle
  intro e member acc
  obtain ⟨i, _, rfl⟩ := List.mem_map.mp member
  rfl

theorem Balanced.repeatUntil (balanced : Balanced a s [] raws all) (time : Rat) :
    Balanced (a.follow (Recognizer.repeatUntil time s).entries)
      (Recognizer.repeatUntil time s).state [] raws all := by
  rw [follow_repeatUntil]
  cases wait : s.wait with
  | repeating action last =>
    rw [repeatUntil_repeating wait]
    exact balanced.repeating wait _
  | _ =>
    simp only [Recognizer.repeatUntil, wait]
    exact balanced

theorem Balanced.expire {time : Rat} (balanced : Balanced a s [] raws all)
    (ok : (expire time s).failure = none) :
    Balanced (a.follow (expire time s).entries) (expire time s).state [] raws all := by
  rcases expire_cases time s with ⟨_, same⟩ | ⟨action, due, _, _, same⟩
  · rw [same]
    exact balanced.repeatUntil time
  · rw [same] at ok ⊢
    obtain ⟨fired, _⟩ := Outcome.failure_andThen_eq_none.mp ok
    rw [Outcome.andThen_of_ok fired, Account.follow_append]
    exact (balanced.fire fired).repeatUntil time

theorem received_expire {time : Rat} (ok : (expire time s).failure = none) (a : Account) :
    (a.follow (expire time s).entries).received = a.received := by
  rcases expire_cases time s with ⟨_, same⟩ | ⟨action, due, _, _, same⟩
  · rw [same, follow_repeatUntil]
  · rw [same] at ok ⊢
    obtain ⟨fired, _⟩ := Outcome.failure_andThen_eq_none.mp ok
    rw [Outcome.andThen_of_ok fired, Account.follow_append, follow_repeatUntil, follow_fire]

theorem Balanced.play {schedule : Schedule} (balanced : Balanced a s [] schedule.reports all)
    (ok : (r.play schedule s).failure = none) :
    Balanced (a.follow (r.play schedule s).entries) (r.play schedule s).state [] [] all := by
  induction schedule generalizing a s with
  | nil => exact balanced
  | cons x rest ih =>
    obtain ⟨time, stimulus⟩ := x
    simp only [Recognizer.play] at ok ⊢
    obtain ⟨first, later⟩ := Outcome.failure_andThen_eq_none.mp ok
    rw [Outcome.andThen_of_ok first, Account.follow_append]
    refine ih ?_ later
    cases stimulus with
    | report raw => exact Balanced.receive balanced first
    | timeout => exact Balanced.elapse balanced first

end

/-- All reports have been received, and what was recorded is what their events left, batch by batch,
    when the releases that were owed as they arrived are taken away. -/
structure State.Accounted (s : State) (account : Account) (raws : List Raw) : Prop where
  received : account.received.length = raws.length
  decoded : account.received.map (·.events) = Decoder.batches {} raws
  owed : ∀ t, t ∈ s.owed ↔ t ∈ account.owed
  batches : account.recorded = account.batches
  events : account.recorded.flatten = (account.received.map (·.kept)).flatten
  pending : s.pending = []

theorem Balanced.all_recorded {a : Account} {s : State} {raws all : List Raw}
    (balanced : Balanced a s [] raws all) : a.recorded = a.batches := by
  rw [← balanced.recorded, List.append_nil]

theorem Balanced.accounted {a : Account} {s : State} {all : List Raw}
    (balanced : Balanced a s [] [] all) : s.Accounted a all where
  received := balanced.counted
  decoded := by rw [← balanced.decoded, balanced.coming, Decoder.batches, List.append_nil]
  owed t := (balanced.owed t).symm
  batches := balanced.all_recorded
  events := by rw [balanced.all_recorded, Account.batches, List.flatten_filter_ne_nil]
  pending := balanced.settled.pending

theorem play_accounted {r : Recognizer} {buffer : Buffer} {schedule : Schedule}
    (ok : (r.play schedule { buffer := buffer }).failure = none) :
    let o := r.play schedule { buffer := buffer }
    o.state.Accounted ((Account.opened buffer schedule.reports).follow o.entries) schedule.reports :=
  (Balanced.play (balanced_opened buffer schedule.reports) ok).accounted

theorem follow_run {r : Recognizer} {buffer : Buffer} {arrivals : List Arrival} {endTime : Rat}
    (ok : (r.run buffer arrivals endTime).failure = none) (a : Account) :
    a.follow (r.run buffer arrivals endTime).entries =
      a.follow (r.standing buffer arrivals endTime).entries := by
  obtain ⟨stood, closed⟩ := run_of_ok ok
  rw [closed, Outcome.andThen_of_ok stood, Account.follow_append]
  rfl

/-- Whenever the recognizer waits, and at the end of a run, each event that arrived was recorded once
    and in its turn, unless it was a release that was owed when it arrived; nothing is left pending.
    This is so for all schedules, for timed runs at all times, and for whole runs. -/
theorem recorded_eq_kept (r : Recognizer) (buffer : Buffer) :
    (∀ schedule : Schedule,
      let o := r.play schedule { buffer := buffer }
      let account := (Account.opened buffer schedule.reports).follow o.entries
      o.failure = none → o.state.Accounted account schedule.reports) ∧
    ∀ (arrivals : List Arrival) (time : Rat),
      let raws := arrivals.map (·.raw)
      let waiting := r.standing buffer arrivals time
      let ended := r.run buffer arrivals time
      let opened := Account.opened buffer raws
      (waiting.failure = none → waiting.state.Accounted (opened.follow waiting.entries) raws) ∧
        (ended.failure = none → ended.state.Accounted (opened.follow ended.entries) raws) := by
  refine ⟨fun schedule => play_accounted, ?_⟩
  intro arrivals time
  dsimp only
  obtain ⟨schedule, reported, same⟩ := standing_eq_play r buffer arrivals time
  have waiting : (r.standing buffer arrivals time).failure = none →
      (r.standing buffer arrivals time).state.Accounted
        ((Account.opened buffer (arrivals.map (·.raw))).follow (r.standing buffer arrivals time).entries)
        (arrivals.map (·.raw)) := by
    intro ok
    rw [same] at ok ⊢
    rw [← reported]
    exact play_accounted ok
  refine ⟨waiting, ?_⟩
  intro ok
  rw [follow_run ok]
  obtain ⟨stood, closed⟩ := run_of_ok ok
  rw [closed, Outcome.andThen_of_ok stood]
  exact waiting stood

/-- The late release of the first key arrives, but only the other three events are recorded. -/
theorem recorded_eq_kept_lateRelease :
    let raws := lateRelease.map (·.raw)
    let o := volumeKeys.run {} lateRelease 5000
    let account := (Account.opened {} raws).follow o.entries
    o.failure = none ∧ account.received.map (·.kept) =
      [[⟨.volumeUp, .press, 0⟩], [⟨.volumeDown, .press, 600⟩], [⟨.volumeDown, .release, 100⟩], []] ∧
      o.state.Accounted account raws := by
  have ok : (volumeKeys.run {} lateRelease 5000).failure = none := by decide +kernel
  exact ⟨ok, by decide +kernel, ((recorded_eq_kept volumeKeys {}).2 lateRelease 5000).2 ok⟩

end Recognizer

end Gesture
