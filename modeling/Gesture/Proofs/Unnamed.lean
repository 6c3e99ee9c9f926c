import Gesture.Proofs.Custody
import Gesture.Proofs.Down
import Gesture.Proofs.SideBySide

namespace Gesture.Recognizer

section

variable {s : State} {time limit last : Rat}

theorem dueCount_add (interval : Nat) (last : Rat) (later : time ≤ limit) :
    dueCount last time interval +
        dueCount (last + dueCount last time interval * interval) limit interval =
      dueCount last limit interval := by
  rcases Nat.eq_zero_or_pos interval with rfl | positive
  · have never : ∀ first due, dueCount first due 0 = 0 := by
      intro first due
      rw [dueCount, Nat.cast_zero, div_zero]
      rfl
    rw [never, never, never]
  · have due := multiples_continue (fun k some => le_dueCount positive some last time)
      (fun k some => le_dueCount positive some (last + dueCount last time interval * interval) limit)
      later
    refine eq_of_forall_le_iff fun k => ?_
    rcases Nat.eq_zero_or_pos k with rfl | some
    · exact iff_of_true (Nat.zero_le _) (Nat.zero_le _)
    · exact (due k some).trans (le_dueCount positive some last limit).symm

theorem repetitions_append (a : Action) (last : Rat) (interval n m : Nat) :
    repetitions a last interval n ++ repetitions a (last + n * interval) interval m =
      repetitions a last interval (n + m) := by
  have entries : ∀ first count, repetitions a first interval count =
      ((List.range count).map fun (k : Nat) => (first + (k + 1) * interval, a)).map
        fun x => ⟨x.1, .executed x.2⟩ := by
    intro first count
    rw [List.map_map]
    rfl
  rw [entries, entries, entries, ← List.map_append, multiples_append]

theorem repeatUntil_repeatUntil (later : time ≤ limit) (s : State) :
    (repeatUntil time s).andThen (repeatUntil limit) = repeatUntil limit s := by
  cases wait : s.wait with
  | repeating a last =>
    let interval := a.interval?.getD 0
    have moved : last + dueCount last time interval * interval +
        dueCount (last + dueCount last time interval * interval) limit interval * interval =
          last + dueCount last limit interval * interval := by
      rw [← dueCount_add interval last later]
      push_cast
      ring
    rw [repeatUntil_repeating wait, repeatUntil_repeating wait, Outcome.andThen_mk,
      repeatUntil_repeating rfl, repetitions_append, dueCount_add _ _ later, moved]
  | _ => simp only [repeatUntil, wait, Outcome.andThen_mk, List.nil_append]

theorem expire_expire_of_early (early : s.Early time) (later : time ≤ limit) :
    (expire time s).andThen (expire limit) = expire limit s := by
  rw [expire_of_early early]
  cases wait : s.wait with
  | repeating a last =>
    have still : (repeatUntil time s).state.Early limit := by
      rw [repeatUntil_repeating wait]
      exact early_of_repeating rfl
    rw [Outcome.andThen_congr fun _ => expire_of_early still, repeatUntil_repeatUntil later,
      expire_of_early (early_of_repeating wait)]
  | _ => simp only [repeatUntil, wait, Outcome.andThen_mk, List.nil_append]

theorem expire_expire (later : time ≤ limit) (s : State) :
    (expire time s).andThen (expire limit) = expire limit s := by
  rcases expire_cases time s with ⟨early, _⟩ | ⟨a, due, wait, passed, _⟩
  · exact expire_expire_of_early early later
  · rw [expire_due_onward wait passed, expire_due_onward wait (passed.trans later), Outcome.andThen_assoc]
    exact Outcome.andThen_congr fun ok => expire_expire_of_early (fire_early ok time) later

theorem expire_onward {r : Recognizer} {endTime : Rat} {arrivals : List Arrival}
    (later : time ≤ nextTime endTime arrivals) (s : State) :
    (expire time s).andThen (r.onward endTime arrivals) = r.onward endTime arrivals s := by
  cases arrivals with
  | nil => exact expire_expire later s
  | cons x rest =>
    have later : time ≤ x.time := later
    rw [onward_cons, ← expire_expire later s, Outcome.andThen_assoc]
    exact Outcome.andThen_congr fun _ => onward_cons r endTime _ x rest

end

def named (arrivals : List Arrival) : List Arrival :=
  arrivals.filter (·.raw.button?.isSome)

theorem named_append (before after : List Arrival) : named (before ++ after) = named before ++ named after :=
  List.filter_append before after

theorem named_eq_cons {arrivals later : List Arrival} {x : Arrival} (same : named arrivals = x :: later) :
    ∃ before after, arrivals = before ++ x :: after ∧ named before = [] ∧ named after = later := by
  obtain ⟨before, after, rfl, none, some, rest⟩ := List.filter_eq_cons_iff.mp same
  exact ⟨before, after, rfl, List.filter_eq_nil_iff.mpr none, rest⟩

theorem named_take {before : List Arrival} (none : named before = []) (x : Arrival) (after : List Arrival)
    (i : Nat) :
    named ((before ++ x :: after).take (before.length + (1 + i))) = named (x :: after.take i) := by
  rw [List.take_length_add_append, Nat.add_comm 1, List.take_succ_cons, named_append, none, List.nil_append]

section

open Buffer

variable {r left right : Recognizer} {s t : State} {time endTime : Rat}

theorem receive_unnamed (settled : s.Settled) (owes : s.OwesHold) {raw : Raw} (name : raw.button? = none)
    (r : Recognizer) (time : Rat) :
    r.receive time raw s =
      ⟨{ s with received := s.received + 1 }, entriesAt time [.received s.received], none⟩ := by
  have decoded : s.decoder.decode raw = .ok ([], s.decoder) := by
    simp only [Raw.button?] at name
    simp only [Decoder.decode, name]
  have goes : (s.taking [] s.decoder).holdEnded = false := by
    cases wait : s.wait with
    | repeating a last =>
      simpa [State.holdEnded, State.taking, wait, isReleased, dropOwed] using owes a last wait
    | _ => simp only [State.holdEnded, State.taking, wait]
  rw [receive_quiet settled decoded rfl, goes]
  rfl

theorem State.OwesHold.alike (owes : s.OwesHold) (alike : s.Alike id t) : t.OwesHold := by
  rw [State.OwesHold, ← alike.wait, ← alike.owed]
  exact owes

theorem State.OwesHold.expire (owes : s.OwesHold) (settled : s.Settled) (r : Recognizer)
    (ok : (expire time s).failure = none) :
    (Recognizer.expire time s).state.OwesHold := by
  obtain ⟨schedule, _, same⟩ := expire_eq_play r time s
  rw [same] at ok ⊢
  exact (owes.play settled ok).1

theorem InTime.le_nextTime {x : Arrival} {skipped rest : List Arrival}
    (inTime : InTime (x :: (skipped ++ rest)) endTime) : x.time ≤ nextTime endTime rest := by
  cases rest with
  | nil => exact inTime.ended x List.mem_cons_self
  | cons y more => exact inTime.later y.time (List.mem_map_of_mem (by simp))

theorem InTime.drop {skipped rest : List Arrival} (inTime : InTime (skipped ++ rest) endTime) :
    InTime rest endTime :=
  ⟨(List.pairwise_append.mp inTime.sorted).2.1,
    fun y member => inTime.ended y (List.mem_append_right skipped member)⟩

theorem alike_skip (r : Recognizer) {skipped : List Arrival} (none : named skipped = [])
    (rest : List Arrival) (inTime : InTime (skipped ++ rest) endTime) (settled : s.Settled) (owes : s.OwesHold) :
    (r.onward endTime (skipped ++ rest) s).Alike id
      (r.onward endTime rest { s with received := s.received + skipped.length }) := by
  induction skipped generalizing s with
  | nil => exact alike_onward telling_id (fun k _ => .refl r _) (.refl id s) settled
  | cons x skipped ih =>
    have name : x.raw.button? = .none := by
      simpa using List.filter_eq_nil_iff.mp none x List.mem_cons_self
    have none : named skipped = [] := by
      rwa [named, List.filter_cons_of_neg (by simp [name])] at none
    let counted : State := { s with received := s.received + (skipped.length + 1) }
    have waited : (expire x.time s).Alike id (expire x.time counted) :=
      alike_expire telling_id ((State.Alike.refl id s).recount s.received _) x.time
    -- The wait that this report interrupts is taken apart in the run without it.
    rw [List.cons_append, onward_cons, List.length_cons, ← expire_onward inTime.le_nextTime counted]
    refine waited.andThen fun ok => ?_
    have ok' : (expire x.time counted).failure = .none := waited.failure ▸ ok
    have settled' := settled.expire ok
    have owes' := owes.expire settled r ok
    have count : (expire x.time counted).state.received =
        (expire x.time s).state.received + 1 + skipped.length := by
      rw [expire_received ok, expire_received ok']
      simp only [counted]
      omega
    rw [receive_unnamed settled' owes' name, ← waited.state.eq, count]
    refine Outcome.Alike.after ?_ rfl
    exact ih none inTime.tail ⟨settled'.pending, settled'.phase⟩ owes'

theorem alike_named {xs ys : List Arrival} (same : named xs = named ys)
    (inTime : InTime xs endTime) (inTime' : InTime ys endTime)
    (agree : ∀ i ≤ xs.length, ∀ j ≤ ys.length, named (xs.take i) = named (ys.take j) →
      left.Agree right (s.received + i) (t.received + j))
    (alike : s.Alike id t) (settled : s.Settled) (owes : s.OwesHold) :
    (left.onward endTime xs s).Alike id (right.onward endTime ys t) := by
  generalize shown : named ys = known at same
  -- On what the two have in common; what else comes before its first report is passed over on either side.
  induction known generalizing xs ys s t with
  | nil =>
    have skipped := alike_skip left same [] (by rwa [List.append_nil]) settled owes
    have skipped' := alike_skip right shown [] (by rwa [List.append_nil])
      (alike.settled settled) (owes.alike alike)
    rw [List.append_nil] at skipped skipped'
    refine skipped.trans (Outcome.Alike.trans ?_ skipped'.symm)
    exact alike_expire telling_id (alike.recount _ _) endTime
  | cons x later ih =>
    obtain ⟨before, after, rfl, none, rest⟩ := named_eq_cons same
    obtain ⟨before', after', rfl, none', rest'⟩ := named_eq_cons shown
    have skipped := alike_skip left none (x :: after) inTime settled owes
    have skipped' := alike_skip right none' (x :: after') inTime' (alike.settled settled) (owes.alike alike)
    refine skipped.trans (Outcome.Alike.trans ?_ skipped'.symm)
    simp only [List.length_append, List.length_cons] at agree
    have agree : ∀ i ≤ after.length, ∀ j ≤ after'.length, named (after.take i) = named (after'.take j) →
        left.Agree right (s.received + before.length + 1 + i) (t.received + before'.length + 1 + j) := by
      intro i within j within' same
      rw [Nat.add_assoc, Nat.add_assoc, Nat.add_assoc, Nat.add_assoc]
      refine agree _ (by omega) _ (by omega) ?_
      rw [named_take none, named_take none', ← List.singleton_append, named_append, same, ← named_append]
      rfl
    refine alike_onward_cons telling_id (agree 0 (by omega) 0 (by omega) rfl) (alike.recount _ _)
      ⟨settled.pending, settled.phase⟩ ?_
    intro u v settled' took s' t' alike' count count'
    refine ih inTime.drop.tail inTime'.drop.tail ?_ alike' (settled'.receive took)
      (owesHold_receive settled' took) rest' rest
    rw [count, count']
    exact agree

end

/-- Two runs with the same reports that name buttons, at the same times, and the same end, show the same
    but for the receptions, and end in the same state but for the count of reports: either both as they
    should or both with the same failure. All the other reports make no difference, whenever they come,
    as long as they do not change what the hosts answer. -/
theorem run_eq_of_named (left right : Recognizer) (buffer : Buffer) {xs ys : List Arrival} {endTime : Rat}
    (same : named xs = named ys) (inTime : InTime xs endTime) (inTime' : InTime ys endTime)
    (agree : ∀ i ≤ xs.length, ∀ j ≤ ys.length, named (xs.take i) = named (ys.take j) →
      left.Agree right i j) :
    let o := left.run buffer xs endTime
    let p := right.run buffer ys endTime
    o.failure = p.failure ∧ { o.state with received := p.state.received } = p.state ∧
      o.entries.filter (!·.isReception) = p.entries.filter (!·.isReception) := by
  have agree' : ∀ i ≤ xs.length, ∀ j ≤ ys.length, named (xs.take i) = named (ys.take j) →
      left.Agree right (0 + i) (0 + j) := by
    simpa only [Nat.zero_add] using agree
  have stood : (left.standing buffer xs endTime).Alike id (right.standing buffer ys endTime) := by
    rw [standing_eq_onward, standing_eq_onward]
    exact alike_named same inTime inTime' agree' (.refl id _) (settled_start buffer)
      (owesHold_of_idle fun _ _ wait => by cases wait)
  obtain ⟨rest, rest', ran, ran', entries⟩ := stood.run [] [] rfl rfl
  rw [seen_id, seen_id] at entries
  rw [ran, ran']
  exact ⟨stood.failure, stood.state.eq, entries⟩

/-- The volume keys, when they do something only while the screen is not locked. It gets locked before
    the second key is let go. -/
def guardedKeys : Recognizer where
  table := volumeKeys.table.map ({ · with condition := .unlocked })
  host := { volumeKeys.host with locked := fun m => .answered (decide (650 < m.instant)) }

def otherAt (millis : Nat) : Arrival :=
  ⟨millis, ⟨.code 30, some 1, Binary64.ofRatio false millis 1000⟩⟩

/-- The late release, with other keys in between: while an action is armed and while it repeats. -/
def lateReleaseAmongOthers : List Arrival :=
  [otherAt 0, levelAt 0 .volumeUp 1, otherAt 200, otherAt 400, levelAt 600 .volumeDown 1, otherAt 600,
    levelAt 700 .volumeDown 0, levelAt 750 .volumeUp 0, otherAt 900]

/-- The first key fires and repeats at the same times, among whatever other reports. -/
theorem run_eq_of_named_lateRelease :
    let o := guardedKeys.run {} lateReleaseAmongOthers 5000
    let p := guardedKeys.run {} lateRelease 5000
    o.state.received = 9 ∧ p.state.received = 4 ∧
      (p.entries.filterMap Entry.execution?).map (·.1) = [350, 450, 550] ∧
      o.failure = p.failure ∧ { o.state with received := p.state.received } = p.state ∧
      o.entries.filter (!·.isReception) = p.entries.filter (!·.isReception) :=
  ⟨by decide +kernel, by decide +kernel, by decide +kernel,
    run_eq_of_named guardedKeys guardedKeys {} rfl (by decide +kernel) (by decide +kernel)
      fun _ _ _ _ _ => ⟨rfl, rfl, fun _ _ => rfl, fun _ _ => rfl, fun _ _ => rfl⟩⟩

end Gesture.Recognizer
