import Gesture.Proofs.Custody
import Gesture.Proofs.Down
import Gesture.Proofs.Lines

namespace Gesture.Recognizer

/-- Whether all buttons that the pattern of an action leaves down are down after reports. -/
def HeldDown (a : Action) (raws : List Raw) : Prop :=
  ∀ t ∈ a.holdReleases, ∃ b : Button, t = b.token .release ∧ isDown b raws = true

/-- The action that is executed as a repetition, and the number of reports received before that. -/
def repetition? (v : View) (e : Entry) : Option (Action × Nat) :=
  match e.step with
  | .executed a => if v.phase = .repeating then some (a, v.received) else none
  | _ => none

theorem takesNoPlain_repetition : TakesNoPlain repetition? := by
  intro v e plain
  unfold repetition?
  split
  · rename_i shown
    rw [shown] at plain
    cases plain
  · rfl

section

variable {r : Recognizer} {v : View} {s : State} {time : Rat} {raws : List Raw}

theorem repetitions_receive (settled : s.Settled) (raw : Raw) :
    readings repetition? v (r.receive time raw s).entries = [] := by
  have plain : ∀ wait, readings repetition? v
      (entriesAt time (.received s.received :: breakSteps wait)) = [] :=
    fun wait => readings_plain takesNoPlain_repetition (receive_plain time wait s.received) v
  cases decoded : s.decoder.decode raw with
  | error e =>
    rw [receive_undecodable decoded]
    exact plain .input
  | ok result =>
    obtain ⟨events, decoder⟩ := result
    by_cases quiet : (dropOwed s.owed events).1 = []
    · rw [receive_quiet settled decoded quiet]
      split
      · exact plain s.wait
      · exact plain .input
    · rw [receive_batch settled decoded quiet, Outcome.andThen_mk, readings_append, plain,
        readings_evaluate takesNoPlain_repetition]
      rfl

theorem repetitions_fire (a : Action) : readings repetition? v (fire time a s).entries = [] := by
  rw [readings_fire takesNoPlain_repetition]
  rfl

theorem mem_repetitions_react (settled : s.Settled) {stimulus : Stimulus} {x : Action × Nat}
    (member : x ∈ readings repetition? v (r.react time stimulus s).entries) :
    x.2 = v.received ∧ ∃ last, s.wait = .repeating x.1 last := by
  cases stimulus with
  | report raw =>
    rw [react, repetitions_receive settled] at member
    cases member
  | timeout =>
    cases wait : s.wait with
    | input =>
      simp only [react, elapse, wait] at member
      cases member
    | armed a deadline =>
      simp only [react, elapse, wait, repetitions_fire] at member
      cases member
    | repeating a last =>
      simp only [react, elapse, wait, readings, repetition?, List.append_nil, Option.mem_toList,
        Option.ite_none_right_eq_some, Option.some.injEq] at member
      obtain ⟨_, rfl⟩ := member
      exact ⟨rfl, last, rfl⟩

theorem received_react (settled : s.Settled) {stimulus : Stimulus}
    (ok : (r.react time stimulus s).failure = none) :
    (r.react time stimulus s).state.received =
      s.received + (Schedule.reports [(time, stimulus)]).length := by
  cases stimulus with
  | report raw =>
    obtain ⟨events, decoder, decoded⟩ := decoded_of_ok ok
    obtain ⟨wait, phase, same⟩ := receive_state settled decoded ok
    rw [react, same]
    rfl
  | timeout =>
    cases wait : s.wait with
    | armed a deadline =>
      simp only [react, elapse, wait] at ok ⊢
      rw [fire_state ok]
      rfl
    | _ => simp only [react, elapse, wait]; rfl

theorem Tracked.heldDown (tracked : Tracked s raws) (owes : s.OwesHold) {a : Action} {last : Rat}
    (wait : s.wait = .repeating a last) : HeldDown a raws := by
  intro t member
  have owed := owes a last wait t member
  obtain ⟨b, rfl⟩ := tracked.parted.releases t owed
  exact ⟨b, rfl, (tracked.parted.down b).mpr (.inr owed)⟩

def RepeatsHeld (raws : List Raw) (v : View) (entries : List Entry) : Prop :=
  ∀ x ∈ readings repetition? v entries, HeldDown x.1 (raws.take x.2)

theorem RepeatsHeld.append {left right : List Entry} (before : RepeatsHeld raws v left)
    (later : RepeatsHeld raws (v.after left) right) : RepeatsHeld raws v (left ++ right) := by
  intro x member
  rw [readings_append] at member
  exact (List.mem_append.mp member).elim (before x) (later x)

theorem repeatsHeld_play {schedule : Schedule} (fits : v.Fits s) (received : s.received = raws.length)
    (tracked : Tracked s raws) (owes : s.OwesHold) (alternating : Alternating (raws ++ schedule.reports)) :
    RepeatsHeld (raws ++ schedule.reports) v (r.play schedule s).entries := by
  -- What carries the induction: the releases that end a repetition are owed, and what is owed is down.
  induction schedule generalizing v s raws with
  | nil => exact fun x member => absurd member List.not_mem_nil
  | cons x rest ih =>
    obtain ⟨time, stimulus⟩ := x
    rw [reports_cons] at alternating ⊢
    have now : RepeatsHeld (raws ++ (Schedule.reports [(time, stimulus)] ++ Schedule.reports rest)) v
        (r.react time stimulus s).entries := by
      intro x member
      obtain ⟨count, last, wait⟩ := mem_repetitions_react tracked.settled member
      rw [count, fits.received, received, List.take_left]
      exact tracked.heldDown owes wait
    rw [play]
    cases failed : (r.react time stimulus s).failure with
    | some f =>
      rw [Outcome.andThen_of_failed failed]
      exact now
    | none =>
      rw [Outcome.andThen_of_ok failed]
      refine now.append ?_
      obtain ⟨_, left⟩ := tracked.react (r := r) time stimulus alternating
      rw [← List.append_assoc] at alternating ⊢
      refine ih (fits.react tracked.settled failed) ?_ (left failed)
        (owes.react tracked.settled failed) alternating
      rw [received_react tracked.settled failed, received, List.length_append]

theorem repetitions_closing (endTime : Rat) (o : Outcome) : readings repetition? v (closing endTime o) = [] := by
  refine readings_plain takesNoPlain_repetition (fun e member => ?_) v
  rcases mem_closing member with shown | shown | shown <;> rw [shown] <;> rfl

end

theorem repeatsHeld_opened (r : Recognizer) (maxMillis chatterMillis : Int) {schedule : Schedule}
    (alternating : Alternating schedule.reports) :
    let buffer : Buffer := ⟨maxMillis, chatterMillis, []⟩
    RepeatsHeld schedule.reports (.opened buffer) (r.play schedule { buffer := buffer }).entries := by
  have held := repeatsHeld_play (r := r) (View.fits_opened ⟨maxMillis, chatterMillis, []⟩) rfl
    (tracked_start maxMillis chatterMillis) (owesHold_of_idle fun _ _ wait => by cases wait) alternating
  exact held

theorem HeldDown.some_down {a : Action} {raws : List Raw} (down : HeldDown a raws)
    (some : a.holdReleases ≠ []) : ∃ b, isDown b raws = true := by
  obtain ⟨t, member⟩ := List.exists_mem_of_ne_nil _ some
  obtain ⟨b, _, isDown⟩ := down t member
  exact ⟨b, isDown⟩

/-- For reports that tell of real buttons, whenever an action is executed as a repetition, all buttons that
    its pattern leaves down are down; so some button is, if the pattern leaves any down. This is so for
    all schedules, and for timed runs. -/
theorem repeats_while_down (r : Recognizer) (maxMillis chatterMillis : Int) :
    let buffer : Buffer := ⟨maxMillis, chatterMillis, []⟩
    let heldAt := fun (raws : List Raw) (x : Action × Nat) =>
      HeldDown x.1 (raws.take x.2) ∧ (x.1.holdReleases ≠ [] → ∃ b, isDown b (raws.take x.2) = true)
    (∀ schedule : Schedule, Alternating schedule.reports →
      ∀ x ∈ readings repetition? (.opened buffer) (r.play schedule { buffer := buffer }).entries,
        heldAt schedule.reports x) ∧
    ∀ (arrivals : List Arrival) (endTime : Rat), Alternating (arrivals.map (·.raw)) →
      ∀ x ∈ readings repetition? (.opened buffer) (r.run buffer arrivals endTime).entries,
        heldAt (arrivals.map (·.raw)) x := by
  refine ⟨fun schedule alternating x member => ?_, fun arrivals endTime alternating x member => ?_⟩
  · have down := repeatsHeld_opened r maxMillis chatterMillis alternating x member
    exact ⟨down, down.some_down⟩
  · obtain ⟨schedule, reported, same⟩ := standing_eq_play r ⟨maxMillis, chatterMillis, []⟩ arrivals endTime
    rw [run_eq_closing, readings_append, repetitions_closing, List.append_nil, same] at member
    rw [← reported] at alternating ⊢
    have down := repeatsHeld_opened r maxMillis chatterMillis alternating x member
    exact ⟨down, down.some_down⟩

theorem repeats_while_down_lateRelease :
    let raws := lateRelease.map (·.raw)
    let louder := volumeKeys.table[1]
    Alternating raws ∧ louder.holdReleases = [Button.volumeUp.token .release] ∧
      readings repetition? (.opened {}) (volumeKeys.run {} lateRelease 5000).entries =
        [(louder, 1), (louder, 1)] ∧
      HeldDown louder (raws.take 1) ∧ ∃ b, isDown b (raws.take 1) = true := by
  have alternating : Alternating (lateRelease.map (·.raw)) := by decide +kernel
  have leaves : volumeKeys.table[1].holdReleases = [Button.volumeUp.token .release] := by decide +kernel
  have repeated : readings repetition? (.opened {}) (volumeKeys.run {} lateRelease 5000).entries =
      [(volumeKeys.table[1], 1), (volumeKeys.table[1], 1)] := by decide +kernel
  obtain ⟨down, some⟩ := (repeats_while_down volumeKeys 350 10).2 lateRelease 5000 alternating
    (volumeKeys.table[1], 1) (by rw [repeated]; exact List.mem_cons_self)
  exact ⟨alternating, leaves, repeated, down, some (by rw [leaves]; exact List.cons_ne_nil _ _)⟩

def clickLine : String := "action=repeat(100,louder),vu,always"

def clickAction : Action where
  text := "repeat(100,louder)"
  kind := .repeating 100 "louder"
  pattern := [Button.volumeUp.token .press, Button.volumeUp.token .release]
  condition := .always
  conditionText := "always"

def clickRepeater : Recognizer where
  table := [clickAction]
  host := ⟨fun _ => .failed, fun _ => .failed, fun _ => .failed⟩

def oneClick : List Arrival :=
  [levelAt 0 .volumeUp 1, levelAt 100 .volumeUp 0]

theorem compile_clickLine : Action.compile clickLine = .ok clickRepeater.table := by
  have kind : Kind.parse "repeat(100,louder)" = .ok (.repeating 100 "louder") := by decide +kernel
  have condition : Condition.parse "always" = .ok .always := by decide +kernel
  have other : Kind.parse "repeat(100" = .error (.refused (.unknownAction "repeat(100")) := by decide +kernel
  have begins : "action=".toList.isPrefixOf clickLine.toList = true := by decide +kernel
  have ways : Action.splits (clickLine.toList.drop "action=".toList.length) =
      [⟨"repeat(100", "louder)", "vu,always"⟩, ⟨"repeat(100,louder)", "vu", "always"⟩] := by
    decide +kernel
  have line : Action.parseLine clickLine = .ok clickAction := by
    have skipped : Action.ofParts ⟨"repeat(100", "louder)", "vu,always"⟩ =
        .error (.refused (.unknownAction "repeat(100")) := by
      rw [Action.ofParts_eq, other]
    have taken : Action.ofParts ⟨"repeat(100,louder)", "vu", "always"⟩ = .ok clickAction :=
      Action.ofParts_click .volumeUp kind condition (by decide +kernel)
    simp only [Action.parseLine, begins, ways, Action.firstOf, skipped, taken, if_true]
  have bodies : (Text.lines clickLine.toList).filterMap Action.body? = [clickLine] := by decide +kernel
  rw [Action.compile_of_bodies bodies (.cons line .nil), List.mergeSort_singleton]
  rfl

/-- Once it has fired for a click, the action is repeated when all keys are up. -/
theorem clickRepeater_repeats :
    let raws := oneClick.map (·.raw)
    Action.compile clickLine = .ok clickRepeater.table ∧ Alternating raws ∧
      readings repetition? (.opened {}) (clickRepeater.run {} oneClick 600).entries = [(clickAction, 2)] ∧
      ∀ b, isDown b (raws.take 2) = false := by
  refine ⟨compile_clickLine, by decide +kernel, by decide +kernel, ?_⟩
  intro b
  cases b <;> decide +kernel

end Gesture.Recognizer
