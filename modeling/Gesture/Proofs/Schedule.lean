import Gesture.Proofs.Steps
import Mathlib.Algebra.Ring.Rat
import Mathlib.Tactic.Ring

namespace Gesture.Recognizer

/-- What can meet a recognizer that waits: a report, or the end of the time that it waits for. -/
inductive Stimulus where
  | report (raw : Raw)
  | timeout
  deriving DecidableEq, Repr

abbrev Schedule := List (Rat × Stimulus)

def Schedule.reports (schedule : Schedule) : List Raw :=
  schedule.filterMap fun x =>
    match x.2 with
    | .report raw => some raw
    | .timeout => none

def Schedule.arrivals (schedule : Schedule) : List Arrival :=
  schedule.filterMap fun x =>
    match x.2 with
    | .report raw => some ⟨x.1, raw⟩
    | .timeout => none

/-- What happens when a wait runs out. A wait for input alone never does. -/
def elapse (time : Rat) (s : State) : Outcome :=
  match s.wait with
  | .input => ⟨s, [], none⟩
  | .armed a _ => fire time a s
  | .repeating a _ => ⟨{ s with wait := .repeating a time }, [⟨time, .executed a⟩], none⟩

def react (r : Recognizer) (time : Rat) : Stimulus → State → Outcome
  | .report raw, s => r.receive time raw s
  | .timeout, s => elapse time s

def play (r : Recognizer) : Schedule → State → Outcome
  | [], s => ⟨s, [], none⟩
  | (time, stimulus) :: rest, s => (r.react time stimulus s).andThen (r.play rest)

theorem reports_append (left right : Schedule) :
    Schedule.reports (left ++ right) = left.reports ++ right.reports :=
  List.filterMap_append

theorem reports_cons (x : Rat × Stimulus) (rest : Schedule) :
    Schedule.reports (x :: rest) = Schedule.reports [x] ++ rest.reports :=
  reports_append [x] rest

theorem arrivals_append (left right : Schedule) :
    Schedule.arrivals (left ++ right) = left.arrivals ++ right.arrivals :=
  List.filterMap_append

theorem map_raw_arrivals (schedule : Schedule) : schedule.arrivals.map (·.raw) = schedule.reports := by
  rw [Schedule.arrivals, List.map_filterMap, Schedule.reports]
  congr 1
  funext x
  cases x.2 <;> rfl

theorem play_append (r : Recognizer) (left right : Schedule) (s : State) :
    r.play (left ++ right) s = (r.play left s).andThen (r.play right) := by
  induction left generalizing s with
  | nil => simp only [List.nil_append, play, Outcome.andThen_mk]
  | cons x rest ih =>
    simp only [List.cons_append, play, Outcome.andThen_assoc]
    exact Outcome.andThen_congr fun _ => ih _

theorem play_single (r : Recognizer) (time : Rat) (stimulus : Stimulus) (s : State) :
    r.play [(time, stimulus)] s = r.react time stimulus s :=
  Outcome.andThen_nothing _

theorem State.Settled.react {r : Recognizer} {s : State} (settled : s.Settled) {time : Rat}
    {stimulus : Stimulus} (ok : (r.react time stimulus s).failure = none) :
    (r.react time stimulus s).state.Settled := by
  cases stimulus with
  | report raw => exact settled.receive ok
  | timeout =>
    cases wait : s.wait with
    | input =>
      simp only [Recognizer.react, elapse, wait]
      exact settled
    | armed a deadline =>
      simp only [Recognizer.react, elapse, wait] at ok ⊢
      exact settled.fire ok
    | repeating a last =>
      simp only [Recognizer.react, elapse, wait]
      exact ⟨settled.pending, by rw [settled.phase, wait]; rfl⟩

def timeouts (last : Rat) (interval count : Nat) : Schedule :=
  (List.range count).map fun (i : Nat) => (last + (i + 1) * interval, .timeout)

theorem reports_timeouts (last : Rat) (interval count : Nat) :
    (timeouts last interval count).reports = [] := by
  simp [timeouts, Schedule.reports, List.filterMap_map]

theorem play_timeouts (r : Recognizer) {a : Action} {last : Rat} {s : State}
    (wait : s.wait = .repeating a last) (interval count : Nat) :
    r.play (timeouts last interval count) s =
      ⟨{ s with wait := .repeating a (last + count * interval) },
        repetitions a last interval count, none⟩ := by
  induction count with
  | zero =>
    obtain ⟨_, phase, buffer, decoder, owed, pending, received⟩ := s
    dsimp only at wait
    subst wait
    simp [timeouts, repetitions, play]
  | succ count ih =>
    simp only [timeouts, repetitions, List.range_succ, List.map_append, List.map_cons,
      List.map_nil] at ih ⊢
    rw [play_append, ih, Outcome.andThen_mk, play_single]
    simp only [react, elapse, Nat.cast_succ]

theorem repeatUntil_eq_play (r : Recognizer) (time : Rat) (s : State) :
    ∃ schedule, Schedule.reports schedule = [] ∧ repeatUntil time s = r.play schedule s := by
  cases wait : s.wait with
  | repeating a last =>
    let interval := a.interval?.getD 0
    let count := dueCount last time interval
    refine ⟨timeouts last interval count, reports_timeouts last interval count, ?_⟩
    rw [repeatUntil_repeating wait, play_timeouts r wait]
  | _ => exact ⟨[], rfl, by simp only [repeatUntil, wait, play]⟩

theorem expire_eq_play (r : Recognizer) (time : Rat) (s : State) :
    ∃ schedule, Schedule.reports schedule = [] ∧ expire time s = r.play schedule s := by
  rcases expire_cases time s with ⟨_, same⟩ | ⟨a, due, wait, _, same⟩
  · rw [same]
    exact repeatUntil_eq_play r time s
  · obtain ⟨later, silent, repeated⟩ := repeatUntil_eq_play r time (fire due a s).state
    refine ⟨(due, .timeout) :: later, silent, ?_⟩
    rw [same]
    simp only [play, react, elapse, wait]
    exact Outcome.andThen_congr fun _ => repeated

theorem arrivals_of_silent {schedule : Schedule} (silent : schedule.reports = []) : schedule.arrivals = [] := by
  rwa [← map_raw_arrivals, List.map_eq_nil_iff] at silent

theorem feed_eq_play (r : Recognizer) (arrivals : List Arrival) (s : State) :
    ∃ schedule, Schedule.arrivals schedule = arrivals ∧ r.feed arrivals s = r.play schedule s := by
  induction arrivals generalizing s with
  | nil => exact ⟨[], rfl, rfl⟩
  | cons x rest ih =>
    obtain ⟨before, silent, expired⟩ := expire_eq_play r x.time s
    obtain ⟨after, reported, fed⟩ :=
      ih ((expire x.time s).andThen (r.receive x.time x.raw)).state
    refine ⟨before ++ (x.time, .report x.raw) :: after, ?_, ?_⟩
    · rw [arrivals_append, arrivals_of_silent silent, List.nil_append, ← reported]
      rfl
    · have first : (expire x.time s).andThen (r.receive x.time x.raw) =
          r.play (before ++ [(x.time, .report x.raw)]) s := by
        rw [play_append, expired]
        exact Outcome.andThen_congr fun _ => (play_single r x.time (.report x.raw) _).symm
      rw [List.append_cons, play_append, ← first]
      exact Outcome.andThen_congr fun _ => fed

/-- How a timed run stands at `time`, when the reports have arrived. -/
def standing (r : Recognizer) (buffer : Buffer) (arrivals : List Arrival) (time : Rat) : Outcome :=
  (r.feed arrivals { buffer := buffer }).andThen (expire time)

theorem standing_eq_play_arrivals (r : Recognizer) (buffer : Buffer) (arrivals : List Arrival) (time : Rat) :
    ∃ schedule, Schedule.arrivals schedule = arrivals ∧
      r.standing buffer arrivals time = r.play schedule { buffer := buffer } := by
  obtain ⟨before, reported, fed⟩ := feed_eq_play r arrivals { buffer := buffer }
  obtain ⟨after, silent, expired⟩ :=
    expire_eq_play r time (r.feed arrivals { buffer := buffer }).state
  refine ⟨before ++ after, ?_, ?_⟩
  · rw [arrivals_append, arrivals_of_silent silent, List.append_nil, reported]
  · rw [play_append, ← fed]
    exact Outcome.andThen_congr fun _ => expired

theorem standing_eq_play (r : Recognizer) (buffer : Buffer) (arrivals : List Arrival) (time : Rat) :
    ∃ schedule, Schedule.reports schedule = arrivals.map (·.raw) ∧
      r.standing buffer arrivals time = r.play schedule { buffer := buffer } := by
  obtain ⟨schedule, rfl, same⟩ := standing_eq_play_arrivals r buffer arrivals time
  exact ⟨schedule, (map_raw_arrivals schedule).symm, same⟩

def closing (endTime : Rat) (o : Outcome) : List Entry :=
  match o.failure with
  | none => entriesAt endTime [.ended, .inputClosed, .closed]
  | some _ => entriesAt (lastTime o.entries) [.closed]

theorem lastTime_append (entries : List Entry) (time : Rat) {steps : List Step} (some : steps ≠ []) :
    lastTime (entries ++ entriesAt time steps) = time := by
  simp [lastTime, entriesAt, List.getLast?_append, List.getLast?_eq_some_getLast some]

theorem mem_closing {endTime : Rat} {o : Outcome} {e : Entry} (member : e ∈ closing endTime o) :
    e.step = .ended ∨ e.step = .inputClosed ∨ e.step = .closed := by
  unfold closing at member
  split at member
  · simpa using (mem_entriesAt.mp member).2
  · exact .inr (.inr (List.mem_singleton.mp (mem_entriesAt.mp member).2))

theorem run_eq_closing (r : Recognizer) (buffer : Buffer) (arrivals : List Arrival) (endTime : Rat) :
    let o := r.standing buffer arrivals endTime
    r.run buffer arrivals endTime = { o with entries := o.entries ++ closing endTime o } := by
  have finished : (r.feed arrivals { buffer := buffer }).andThen (finish endTime) =
      (r.standing buffer arrivals endTime).andThen
        (⟨·, entriesAt endTime [.ended, .inputClosed], none⟩) := by
    simp only [standing, Outcome.andThen_assoc]
    rfl
  simp only [run, finished]
  cases failed : (r.standing buffer arrivals endTime).failure with
  | some f => simp only [Outcome.andThen_of_failed failed, closing, failed]
  | none =>
    simp only [Outcome.andThen_of_ok failed, closing, failed]
    rw [lastTime_append _ endTime (List.cons_ne_nil _ _), List.append_assoc, ← entriesAt_append]
    rfl

theorem run_of_ok {r : Recognizer} {buffer : Buffer} {arrivals : List Arrival} {endTime : Rat}
    (ok : (r.run buffer arrivals endTime).failure = none) :
    (r.standing buffer arrivals endTime).failure = none ∧
      r.run buffer arrivals endTime = (r.standing buffer arrivals endTime).andThen
        (⟨·, entriesAt endTime [.ended, .inputClosed, .closed], none⟩) := by
  rw [run_eq_closing] at ok ⊢
  have stood : (r.standing buffer arrivals endTime).failure = none := ok
  simp only [Outcome.andThen_of_ok stood, closing, stood, and_self]

theorem mem_entries_run {r : Recognizer} {buffer : Buffer} {arrivals : List Arrival} {endTime : Rat}
    {e : Entry} (member : e ∈ (r.run buffer arrivals endTime).entries) :
    e ∈ (r.standing buffer arrivals endTime).entries ∨
      e.step = .ended ∨ e.step = .inputClosed ∨ e.step = .closed := by
  rw [run_eq_closing] at member
  exact (List.mem_append.mp member).imp id mem_closing

/-- A volume key that is held repeats an action; a click of the other one does something else. -/
def volumeKeys : Recognizer where
  table := [
    ⟨"cmd(quieter)", .shell "quieter",
      [Button.volumeDown.token .press, Button.volumeDown.token .release], .always, "always"⟩,
    ⟨"repeat(100,louder)", .repeating 100 "louder", [Button.volumeUp.token .press], .always, "always"⟩]
  host := ⟨fun _ => .failed, fun _ => .failed, fun _ => .failed⟩

def levelAt (millis : Nat) (b : Button) (level : Int) : Arrival :=
  ⟨millis, ⟨b.identifier, some level, Binary64.ofRatio false millis 1000⟩⟩

def lateRelease : List Arrival :=
  [levelAt 0 .volumeUp 1, levelAt 600 .volumeDown 1, levelAt 700 .volumeDown 0,
    levelAt 750 .volumeUp 0]

end Gesture.Recognizer
