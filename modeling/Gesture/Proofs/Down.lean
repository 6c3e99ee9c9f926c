import Gesture.Proofs.Held
import Gesture.Proofs.Owed
import Gesture.Proofs.Schedule

namespace Gesture

open Event

def Raw.button? (raw : Raw) : Option Button :=
  Button.ofIdentifier? raw.identifier

/-- Whether a button is down after a report. One without a level is over as soon as it comes. -/
def Raw.leaves (b : Button) (down : Bool) (raw : Raw) : Bool :=
  if raw.button? = some b then
    match raw.value with
    | some level => level != 0
    | none => down
  else down

def isDown (b : Button) (raws : List Raw) : Bool :=
  raws.foldl (Raw.leaves b) false

/-- Reports that tell of real buttons: a button is reported as released just when it is down. -/
def Alternating (raws : List Raw) : Prop :=
  ∀ i (_ : i < raws.length), ∀ b ∈ raws[i].button?,
    (raws[i].value = some 0 ↔ isDown b (raws.take i) = true)

instance (raws : List Raw) : Decidable (Alternating raws) :=
  inferInstanceAs (Decidable (∀ i (_ : i < raws.length), ∀ b ∈ raws[i].button?,
    (raws[i].value = some 0 ↔ isDown b (raws.take i) = true)))

theorem isDown_append (b : Button) (raws : List Raw) (raw : Raw) :
    isDown b (raws ++ [raw]) = raw.leaves b (isDown b raws) := by
  simp only [isDown, List.foldl_append, List.foldl_cons, List.foldl_nil]

theorem Alternating.next {raws rest : List Raw} {raw : Raw}
    (alternating : Alternating (raws ++ raw :: rest)) {b : Button} (named : raw.button? = some b) :
    raw.value = some 0 ↔ isDown b raws = true := by
  have here := alternating raws.length (by simp)
  simp only [List.getElem_append_right (Nat.le_refl _), Nat.sub_self, List.getElem_cons_zero,
    List.take_left'] at here
  exact here b named

theorem decode_cases {d decoder : Decoder} {raw : Raw} {events : List Event}
    (decoded : d.decode raw = .ok (events, decoder)) :
    raw.button? = none ∧ events = [] ∧ decoder = d ∨
      ∃ b elapsed, raw.button? = some b ∧ events = Decoder.eventsOf b raw.value elapsed ∧
        decoder = ⟨some raw.timestamp⟩ := by
  unfold Decoder.decode at decoded
  cases named : raw.button? with
  | none =>
    rw [Raw.button?] at named
    rw [named] at decoded
    cases decoded
    exact .inl ⟨rfl, rfl, rfl⟩
  | some b =>
    rw [Raw.button?] at named
    rw [named] at decoded
    cases elapsed : d.elapsed raw.timestamp with
    | error e => simp only [elapsed, Except.map, reduceCtorEq] at decoded
    | ok millis =>
      simp only [elapsed, Except.map, Except.ok.injEq, Prod.mk.injEq] at decoded
      exact .inr ⟨b, millis, rfl, decoded.1.symm, decoded.2.symm⟩

structure Parted (held : List Button) (owed : List Token) (raws : List Raw) : Prop where
  apart : ∀ b ∈ held, b.token .release ∉ owed
  releases : ∀ t ∈ owed, ∃ b : Button, t = b.token .release
  down : ∀ b, isDown b raws = true ↔ b ∈ held ∨ b.token .release ∈ owed

theorem Parted.of_other {held : List Button} {owed : List Token} {raws : List Raw}
    (parted : Parted held owed raws) {raw : Raw} (other : raw.button? = none) :
    Parted held owed (raws ++ [raw]) where
  apart := parted.apart
  releases := parted.releases
  down b := by simpa only [isDown_append, Raw.leaves, other, reduceCtorEq, ↓reduceIte] using parted.down b

theorem isDown_of_named {raw : Raw} {b : Button} (named : raw.button? = some b) (raws : List Raw) :
    isDown b (raws ++ [raw]) = (raw.value.map (· != 0)).getD (isDown b raws) := by
  rw [isDown_append, Raw.leaves, if_pos named]
  cases raw.value <;> rfl

theorem isDown_of_other {raw : Raw} {b other : Button} (named : raw.button? = some b)
    (different : other ≠ b) (raws : List Raw) : isDown other (raws ++ [raw]) = isDown other raws := by
  have unnamed : raw.button? ≠ some other := by
    rw [named]
    exact fun same => different (Option.some.inj same).symm
  rw [isDown_append, Raw.leaves, if_neg unnamed]

section

variable {held : List Button} {owed : List Token} {raws : List Raw} {raw : Raw} {b : Button}

theorem Parted.free_of_up (parted : Parted held owed raws) (up : isDown b raws = false) :
    b ∉ held ∧ b.token .release ∉ owed := by
  have neither : ¬(b ∈ held ∨ b.token .release ∈ owed) := by
    rw [← parted.down b, up]
    exact Bool.false_ne_true
  exact not_or.mp neither

theorem Parted.after {held' : List Button} {owed' : List Token} (parted : Parted held owed raws)
    (named : raw.button? = some b) (fewer : ∀ t ∈ owed', t ∈ owed)
    (same : ∀ other, other ≠ b → (other ∈ held' ↔ other ∈ held) ∧
      (other.token .release ∈ owed' ↔ other.token .release ∈ owed))
    (apart : b ∈ held' → b.token .release ∉ owed')
    (down : isDown b (raws ++ [raw]) = true ↔ b ∈ held' ∨ b.token .release ∈ owed') :
    Parted held' owed' (raws ++ [raw]) where
  apart other member := by
    by_cases this : other = b
    · subst this
      exact apart member
    · rw [(same other this).2]
      exact parted.apart other ((same other this).1.mp member)
  releases t owes := parted.releases t (fewer t owes)
  down other := by
    by_cases this : other = b
    · subst this
      exact down
    · rw [isDown_of_other named this, (same other this).1, (same other this).2]
      exact parted.down other

theorem Parted.release_of_owed (parted : Parted held owed raws) (named : raw.button? = some b)
    (zero : raw.value = some 0) (owes : b.token .release ∈ owed) :
    Parted held (owed.filter (· != b.token .release)) (raws ++ [raw]) := by
  have unheld : b ∉ held := fun member => parted.apart b member owes
  refine parted.after named (fun t member => (List.mem_filter.mp member).1) ?_ ?_ ?_
  · intro other different
    have token : other.token .release ≠ b.token .release := fun h => different (Button.token_inj.mp h)
    simp [List.mem_filter, token]
  · exact fun member => absurd member unheld
  · simp [isDown_of_named named, zero, unheld]

theorem Parted.release_of_held (parted : Parted held owed raws) (nodup : held.Nodup)
    (named : raw.button? = some b) (zero : raw.value = some 0) (member : b ∈ held) :
    Parted (held.erase b) owed (raws ++ [raw]) := by
  have gone : b ∉ held.erase b := nodup.not_mem_erase
  refine parted.after named (fun t owes => owes) ?_ ?_ ?_
  · intro other different
    exact ⟨List.mem_erase_of_ne different, Iff.rfl⟩
  · exact fun member => absurd member gone
  · simp [isDown_of_named named, zero, gone, parted.apart b member]

theorem Parted.press (parted : Parted held owed raws) (named : raw.button? = some b) {level : Int}
    (down : raw.value = some level) (nonzero : level ≠ 0) (up : isDown b raws = false) :
    Parted (held ++ [b]) owed (raws ++ [raw]) := by
  refine parted.after named (fun t owes => owes) ?_ ?_ ?_
  · intro other different
    simp [different]
  · exact fun _ => (parted.free_of_up up).2
  · simp [isDown_of_named named, down, nonzero]

theorem Parted.atomic (parted : Parted held owed raws) (named : raw.button? = some b)
    (brief : raw.value = none) (up : isDown b raws = false) :
    Parted held owed (raws ++ [raw]) := by
  obtain ⟨unheld, unowed⟩ := parted.free_of_up up
  refine parted.after named (fun t owes => owes) (fun _ _ => ⟨Iff.rfl, Iff.rfl⟩) (fun _ => unowed) ?_
  simp [isDown_of_named named, brief, up, unheld, unowed]

theorem Parted.report {d decoder : Decoder} {events : List Event} (parted : Parted held owed raws)
    (nodup : held.Nodup) (fits : ∀ b, raw.button? = some b → (raw.value = some 0 ↔ isDown b raws = true))
    (decoded : d.decode raw = .ok (events, decoder)) :
    let dropped := Recognizer.dropOwed owed events
    Follows held dropped.1 ∧ Parted (heldFrom held dropped.1) dropped.2 (raws ++ [raw]) := by
  rcases decode_cases decoded with ⟨other, rfl, _⟩ | ⟨b, elapsed, named, rfl, _⟩
  · exact ⟨trivial, parted.of_other other⟩
  have fits := fits b named
  cases value : raw.value with
  | none =>
    have up : isDown b raws = false := by simpa [value] using fits
    obtain ⟨unheld, unowed⟩ := parted.free_of_up up
    have free := Recognizer.dropOwed_eventsOf unowed none elapsed
    have back : heldFrom held (Decoder.eventsOf b none elapsed) = held := by
      simp [Decoder.eventsOf, heldFrom, Edge.apply, List.erase_append_right _ unheld]
    simp only [free, back]
    exact ⟨by simpa [Decoder.eventsOf, Follows, Edge.apply] using unheld,
      parted.atomic named value up⟩
  | some level =>
    by_cases zero : level = 0
    · subst zero
      have down : isDown b raws = true := by simpa [value] using fits
      -- What is down is held or owed, and not both: its release settles the one that it is.
      rcases (parted.down b).mp down with member | owes
      · rw [Recognizer.dropOwed_eventsOf (parted.apart b member)]
        exact ⟨by simpa [Decoder.eventsOf, Follows] using member,
          parted.release_of_held nodup named value member⟩
      · simp only [Decoder.eventsOf, ↓reduceIte]
        rw [Recognizer.dropOwed_release rfl owes]
        exact ⟨trivial, parted.release_of_owed named value owes⟩
    · have up : isDown b raws = false := by simpa [value, zero] using fits
      obtain ⟨unheld, unowed⟩ := parted.free_of_up up
      rw [Recognizer.dropOwed_eventsOf unowed]
      have pressed : Decoder.eventsOf b (some level) elapsed = [⟨b, .press, elapsed⟩] := by
        simp only [Decoder.eventsOf, if_neg zero]
      rw [pressed]
      exact ⟨by simpa [Follows] using unheld, parted.press named value zero up⟩

end

namespace Recognizer

structure Tracked (s : State) (raws : List Raw) : Prop where
  settled : s.Settled
  follows : Follows [] s.buffer.events
  parted : Parted (Event.held s.buffer.events) s.owed raws

def Step.IsLost : Step → Prop
  | .lost _ => True
  | _ => False

theorem tracked_start (maxMillis chatterMillis : Int) :
    Tracked { buffer := ⟨maxMillis, chatterMillis, []⟩ } [] where
  settled := settled_start _
  follows := trivial
  parted := ⟨by simp [Event.held], by simp, by simp [isDown, Event.held]⟩

theorem evaluate_not_lost {r : Recognizer} {time : Rat} {events : List Event} {s : State}
    (none : s.buffer.extendLost events = []) :
    ∀ e ∈ (r.evaluate time events s).entries, ¬e.step.IsLost := by
  intro e member
  rw [evaluate_entries] at member
  rcases mem_evaluationSteps (mem_entriesAt.mp member).2 with
    ⟨lost, found, _⟩ | shown | ⟨_, shown⟩ | ⟨_, shown⟩ | ⟨_, shown⟩
  · rw [none] at found
    cases found
  all_goals rw [shown]; exact id

theorem fire_not_lost (time : Rat) (a : Action) (s : State) :
    ∀ e ∈ (fire time a s).entries, ¬e.step.IsLost := by
  intro e member
  rw [fire_entries] at member
  have shown := (mem_entriesAt.mp member).2
  simp only [List.mem_cons] at shown
  rcases shown with shown | shown | shown | shown
  on_goal 4 => rcases mem_firingEnd shown with ⟨_, shown⟩ | shown
  all_goals rw [shown]; exact id

theorem break_not_lost {time : Rat} {wait : Wait} :
    ∀ e ∈ entriesAt time (breakSteps wait), ¬e.step.IsLost := by
  intro e member
  rcases mem_breakSteps (mem_entriesAt.mp member).2 with ⟨_, shown⟩ | ⟨_, shown⟩ | ⟨_, shown⟩
  all_goals rw [shown]; exact id

theorem Tracked.fire {s : State} {raws : List Raw} (tracked : Tracked s raws) {time : Rat}
    {a : Action} (ok : (fire time a s).failure = none) : Tracked (fire time a s).state raws where
  settled := tracked.settled.fire ok
  follows := by
    rw [fire_state ok]
    exact trivial
  parted := by
    obtain ⟨apart, releases, down⟩ := tracked.parted
    rw [fire_state ok]
    refine ⟨fun b member => absurd member List.not_mem_nil, ?_, ?_⟩
    · intro t owes
      rcases mem_oweMore.mp owes with old | new
      · exact releases t old
      · obtain ⟨b, _, rfl⟩ := List.mem_map.mp new
        exact ⟨b, rfl⟩
    · intro b
      have cleared : b ∉ Event.held s.buffer.clear.events := List.not_mem_nil
      rw [down b, mem_oweMore, Buffer.heldReleases, mem_heldReleases]
      exact ⟨fun h => .inr h.symm, fun h => (h.resolve_left cleared).symm⟩

theorem Tracked.accept {r : Recognizer} {s : State} {raws : List Raw} {batch : List Event}
    (settled : s.Settled) (follows : Follows [] s.buffer.events)
    (next : Follows (Event.held s.buffer.events) batch)
    (parted : Parted (heldFrom (Event.held s.buffer.events) batch) s.owed raws) (time : Rat) :
    (∀ e ∈ (r.accept time batch s).entries, ¬e.step.IsLost) ∧
      ((r.accept time batch s).failure = none → Tracked (r.accept time batch s).state raws) := by
  by_cases arrived : batch = []
  · subst arrived
    rw [accept_nil settled]
    split
    · exact ⟨break_not_lost, fun _ => ⟨settled.idle, follows, parted⟩⟩
    · exact ⟨by simp, fun _ => ⟨settled, follows, parted⟩⟩
  · obtain ⟨lost, follows', held'⟩ := Buffer.extend_held follows next
    rw [← held'] at parted
    rw [accept_batch settled arrived, Outcome.andThen_mk]
    constructor
    · intro e member
      rcases List.mem_append.mp member with member | member
      · exact break_not_lost e member
      · exact evaluate_not_lost lost e member
    · intro ok
      have settled' := settled.idle.evaluate ok
      dsimp only at ok ⊢
      rw [evaluate_state ok] at settled' ⊢
      exact ⟨settled', follows', parted⟩

theorem Tracked.receive {r : Recognizer} {s : State} {raws : List Raw} {raw : Raw}
    (tracked : Tracked s raws)
    (fits : ∀ b, raw.button? = some b → (raw.value = some 0 ↔ isDown b raws = true)) (time : Rat) :
    (∀ e ∈ (r.receive time raw s).entries, ¬e.step.IsLost) ∧
      ((r.receive time raw s).failure = none →
        Tracked (r.receive time raw s).state (raws ++ [raw])) := by
  have received : ∀ e ∈ entriesAt time [Step.received s.received], ¬e.step.IsLost := by
    simp [entriesAt, Step.IsLost]
  cases decoded : s.decoder.decode raw with
  | error e =>
    rw [receive_undecodable decoded]
    exact ⟨received, fun failed => by cases failed⟩
  | ok result =>
    obtain ⟨events, decoder⟩ := result
    obtain ⟨next, parted⟩ := tracked.parted.report (tracked.follows.nodup .nil) fits decoded
    obtain ⟨shown, left⟩ := Tracked.accept (r := r) (tracked.settled.taking events decoder)
      tracked.follows next parted time
    rw [receive_decoded decoded, Outcome.andThen_mk]
    constructor
    · intro e member
      exact (List.mem_append.mp member).elim (received e) (shown e)
    · exact left

theorem Tracked.elapse {s : State} {raws : List Raw} (tracked : Tracked s raws) (time : Rat) :
    (∀ e ∈ (elapse time s).entries, ¬e.step.IsLost) ∧
      ((elapse time s).failure = none → Tracked (elapse time s).state raws) := by
  cases wait : s.wait with
  | input =>
    simp only [Recognizer.elapse, wait]
    exact ⟨by simp, fun _ => tracked⟩
  | armed a deadline =>
    simp only [Recognizer.elapse, wait]
    exact ⟨fire_not_lost time a s, tracked.fire⟩
  | repeating a last =>
    simp only [Recognizer.elapse, wait]
    refine ⟨by simp [Step.IsLost], fun _ => ⟨⟨tracked.settled.pending, ?_⟩, tracked.follows, tracked.parted⟩⟩
    rw [tracked.settled.phase, wait]
    rfl

theorem Tracked.react {r : Recognizer} {s : State} {raws : List Raw} (tracked : Tracked s raws)
    (time : Rat) (stimulus : Stimulus) {rest : List Raw}
    (alternating : Alternating (raws ++ (Schedule.reports [(time, stimulus)] ++ rest))) :
    (∀ e ∈ (r.react time stimulus s).entries, ¬e.step.IsLost) ∧
      ((r.react time stimulus s).failure = none →
        Tracked (r.react time stimulus s).state (raws ++ Schedule.reports [(time, stimulus)])) := by
  cases stimulus with
  | report raw => exact tracked.receive (fun b named => alternating.next named) time
  | timeout =>
    have same : raws ++ Schedule.reports [(time, .timeout)] = raws := List.append_nil raws
    rw [same]
    exact tracked.elapse time

theorem Tracked.play {r : Recognizer} {s : State} {raws : List Raw} {schedule : Schedule}
    (tracked : Tracked s raws) (alternating : Alternating (raws ++ schedule.reports)) :
    (∀ e ∈ (r.play schedule s).entries, ¬e.step.IsLost) ∧
      ((r.play schedule s).failure = none →
        Tracked (r.play schedule s).state (raws ++ schedule.reports)) := by
  induction schedule generalizing s raws with
  | nil =>
    rw [Schedule.reports, List.filterMap_nil, List.append_nil]
    exact ⟨by simp [Recognizer.play], fun _ => tracked⟩
  | cons x rest ih =>
    obtain ⟨time, stimulus⟩ := x
    rw [reports_cons] at alternating ⊢
    obtain ⟨shown, left⟩ := tracked.react (r := r) time stimulus alternating
    rw [← List.append_assoc] at alternating ⊢
    simp only [Recognizer.play]
    constructor
    · intro e member
      rcases Outcome.mem_entries_andThen member with member | ⟨ok, member⟩
      · exact shown e member
      · exact (ih (left ok) alternating).1 e member
    · intro ok
      obtain ⟨first, later⟩ := Outcome.failure_andThen_eq_none.mp ok
      rw [Outcome.andThen_of_ok first]
      exact (ih (left first) alternating).2 later

/-- The releases that the buffer holds and those that are owed have none in common, and together
    they are the releases of the buttons that are down. -/
def State.PartsDown (s : State) (raws : List Raw) : Prop :=
  List.Disjoint s.buffer.heldReleases s.owed ∧
    ∀ t, t ∈ s.buffer.heldReleases ∨ t ∈ s.owed ↔ ∃ b : Button, isDown b raws = true ∧ t = b.token .release

theorem Tracked.partsDown {s : State} {raws : List Raw} (tracked : Tracked s raws) :
    s.PartsDown raws := by
  obtain ⟨apart, releases, down⟩ := tracked.parted
  constructor
  · intro t held owes
    obtain ⟨b, member, rfl⟩ := List.mem_map.mp held
    exact apart b member owes
  · intro t
    constructor
    · rintro (held | owes)
      · obtain ⟨b, member, rfl⟩ := List.mem_map.mp held
        exact ⟨b, (down b).mpr (.inl member), rfl⟩
      · obtain ⟨b, rfl⟩ := releases t owes
        exact ⟨b, (down b).mpr (.inr owes), rfl⟩
    · rintro ⟨b, isDown, rfl⟩
      exact ((down b).mp isDown).imp mem_heldReleases.mpr id

theorem play_tracked (r : Recognizer) (maxMillis chatterMillis : Int) {schedule : Schedule}
    (alternating : Alternating schedule.reports) :
    let o := r.play schedule { buffer := ⟨maxMillis, chatterMillis, []⟩ }
    (∀ e ∈ o.entries, ¬e.step.IsLost) ∧ (o.failure = none → o.state.PartsDown schedule.reports) := by
  obtain ⟨shown, left⟩ := Tracked.play (r := r) (tracked_start maxMillis chatterMillis) alternating
  exact ⟨shown, fun ok => (left ok).partsDown⟩

/-- For reports that tell of real buttons, no edge is found lost, and whenever the recognizer waits
    each button that is down is held by the buffer or owed, never both. This is so for all schedules,
    and for timed runs at all times. -/
theorem down_held_or_owed (r : Recognizer) (maxMillis chatterMillis : Int) :
    let buffer : Buffer := ⟨maxMillis, chatterMillis, []⟩
    (∀ schedule : Schedule, Alternating schedule.reports →
      let o := r.play schedule { buffer := buffer }
      (∀ e ∈ o.entries, ¬e.step.IsLost) ∧ (o.failure = none → o.state.PartsDown schedule.reports)) ∧
    ∀ (arrivals : List Arrival) (time : Rat), Alternating (arrivals.map (·.raw)) →
      let o := r.standing buffer arrivals time
      (∀ e ∈ (r.run buffer arrivals time).entries, ¬e.step.IsLost) ∧
        (o.failure = none → o.state.PartsDown (arrivals.map (·.raw))) := by
  refine ⟨fun schedule => play_tracked r maxMillis chatterMillis, ?_⟩
  intro arrivals time alternating
  obtain ⟨schedule, reported, same⟩ := standing_eq_play r ⟨maxMillis, chatterMillis, []⟩ arrivals time
  rw [← reported] at alternating ⊢
  obtain ⟨shown, left⟩ := play_tracked r maxMillis chatterMillis alternating
  rw [← same] at shown left
  refine ⟨fun e member => ?_, left⟩
  rcases mem_entries_run member with member | ending | ending | ending
  · exact shown e member
  all_goals rw [ending]; exact id

/-- Once the first action has fired, the release of its key is owed, while the other key is held. -/
theorem down_held_or_owed_lateRelease :
    let reports := lateRelease.take 2
    let o := volumeKeys.standing {} reports 650
    Alternating (reports.map (·.raw)) ∧ o.failure = none ∧
      o.state.buffer.heldReleases = [Button.volumeDown.token .release] ∧
      o.state.owed = [Button.volumeUp.token .release] ∧ o.state.PartsDown (reports.map (·.raw)) := by
  have alternating : Alternating ((lateRelease.take 2).map (·.raw)) := by decide +kernel
  have ok : (volumeKeys.standing {} (lateRelease.take 2) 650).failure = none := by decide +kernel
  refine ⟨alternating, ok, by decide +kernel, by decide +kernel, ?_⟩
  exact ((down_held_or_owed volumeKeys 350 10).2 (lateRelease.take 2) 650 alternating).2 ok

end Recognizer

end Gesture
