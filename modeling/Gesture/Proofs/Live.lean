import Gesture.Proofs.Held

namespace Gesture

namespace Event

def Joined (maxMillis : Int) : List Button → List Event → Prop
  | _, [] => True
  | down, e :: rest =>
    (down = [] → e.elapsed ≤ maxMillis) ∧ Joined maxMillis (e.edge.apply down e.button) rest

theorem joined_append {maxMillis : Int} {down : List Button} {left right : List Event} :
    Joined maxMillis down (left ++ right) ↔
      Joined maxMillis down left ∧ Joined maxMillis (heldFrom down left) right := by
  induction left generalizing down with
  | nil => simp only [List.nil_append, Joined, heldFrom, List.foldl_nil, true_and]
  | cons e rest ih => simp only [List.cons_append, Joined, ih, and_assoc]; rfl

structure Live (maxMillis : Int) (events : List Event) : Prop where
  follows : Follows [] events
  joined : ∀ e rest, events = e :: rest → Joined maxMillis (e.edge.apply [] e.button) rest

theorem live_nil (maxMillis : Int) : Live maxMillis [] :=
  ⟨trivial, fun _ _ same => by cases same⟩

theorem Live.append {maxMillis : Int} {events : List Event} {e : Event} (live : Live maxMillis events)
    (fits : e.edge = .release ↔ e.button ∈ held events)
    (soon : events ≠ [] → held events = [] → e.elapsed ≤ maxMillis) : Live maxMillis (events ++ [e]) := by
  refine ⟨follows_append.mpr ⟨live.follows, fits, trivial⟩, ?_⟩
  intro first rest same
  cases events with
  | nil =>
    cases same
    exact trivial
  | cons a more =>
    obtain ⟨rfl, rfl⟩ := List.cons.inj same
    exact joined_append.mpr ⟨live.joined a more rfl, soon (List.cons_ne_nil a more), trivial⟩

end Event

open Event

namespace Scan

theorem live_foldl {maxMillis : Int} {s : Scan} (live : Live maxMillis s.live) (sound : s.Sound)
    (events : List Event) : Live maxMillis (events.foldl (step maxMillis) s).live := by
  induction events generalizing s with
  | nil => exact live
  | cons e rest ih =>
    refine ih ?_ (sound.step maxMillis e)
    by_cases fits : e.edge = .release ↔ e.button ∈ s.down
    · obtain ⟨_, down⟩ := sound.liveBefore maxMillis e
      rw [step_of_fits fits]
      rw [← down] at fits
      unfold liveBefore at fits ⊢
      split
      · rename_i silence
        rw [if_pos silence] at fits
        exact (live_nil maxMillis).append fits fun some => absurd rfl some
      · rename_i noSilence
        rw [if_neg noSilence] at fits
        refine live.append fits fun _ up => ?_
        have up : s.down = [] := sound.down.symm.trans up
        simpa [up] using noSilence
    · rw [step_of_misfit fits]
      exact live_nil maxMillis

theorem foldl_of_joined {maxMillis : Int} {s : Scan} {events : List Event}
    (follows : Follows s.down events) (joined : Joined maxMillis s.down events) :
    events.foldl (step maxMillis) s =
      ⟨s.seen + events.length, s.live ++ events, heldFrom s.down events, s.lost⟩ := by
  induction events generalizing s with
  | nil => simp [heldFrom]
  | cons e rest ih =>
    have kept : s.liveBefore maxMillis e = s.live := by
      unfold liveBefore
      split
      · rename_i silence
        simp only [Bool.and_eq_true, List.isEmpty_iff, decide_eq_true_eq] at silence
        exact absurd (joined.1 silence.1) (Int.not_le.mpr silence.2)
      · rfl
    have next := step_of_fits follows.1 maxMillis
    rw [kept] at next
    rw [List.foldl_cons, next, ih follows.2 joined.2]
    simp only [List.length_cons, List.append_assoc, List.singleton_append, Nat.add_assoc,
      Nat.add_comm 1]
    rfl

theorem ofEvents_of_live {maxMillis : Int} {events : List Event} (live : Live maxMillis events) :
    ofEvents maxMillis events = ⟨events.length, events, held events, []⟩ := by
  cases events with
  | nil => rfl
  | cons e rest =>
    have first := step_of_fits (s := {}) live.follows.1 maxMillis
    have kept : ({} : Scan).liveBefore maxMillis e = [] := by
      unfold liveBefore
      split <;> rfl
    rw [kept] at first
    rw [ofEvents, List.foldl_cons, first, foldl_of_joined live.follows.2 (live.joined e rest rfl)]
    simp only [List.length_cons, Nat.zero_add, Nat.add_comm 1]
    rfl

end Scan

theorem live_trim (maxMillis : Int) (events : List Event) : Live maxMillis (trim maxMillis events) :=
  Scan.live_foldl (s := {}) (live_nil maxMillis) ⟨trivial, rfl⟩ events

theorem held_live (maxMillis : Int) (events : List Event) :
    held (trim maxMillis events) = (Scan.ofEvents maxMillis events).down :=
  (Scan.Sound.foldl (s := {}) ⟨trivial, rfl⟩ maxMillis events).down

theorem debounce_joined {maxMillis chatterMillis : Int} {down : List Button} {e : Event}
    {rest : List Event} (follows : Follows down (e :: rest))
    (joined : Joined maxMillis (e.edge.apply down e.button) rest) :
    Joined maxMillis (e.edge.apply down e.button) (debounce chatterMillis (e :: rest)).tail := by
  generalize same : e :: rest = events at follows ⊢
  fun_induction debounce chatterMillis events generalizing down e rest with
  | case1 a b c more chatter ih =>
    cases same
    obtain ⟨fits, _, later⟩ := follows
    obtain ⟨_, _, joined⟩ := joined
    obtain ⟨back, repress⟩ := isChatter_back chatter fits
    rw [back] at later joined
    rw [← repress]
    exact ih joined rfl later
  | case2 a b c more steady ih =>
    cases same
    rw [List.tail_cons, debounce_cons]
    exact ⟨joined.1, ih joined.2 rfl follows.2⟩
  | case3 short =>
    cases same
    exact joined

theorem live_debounce {maxMillis : Int} (chatterMillis : Int) {events : List Event}
    (live : Live maxMillis events) : Live maxMillis (debounce chatterMillis events) := by
  refine ⟨(debounce_held chatterMillis live.follows).1, ?_⟩
  intro e rest same
  cases events with
  | nil => cases same
  | cons a more =>
    rw [debounce_cons] at same
    obtain ⟨rfl, rfl⟩ := List.cons.inj same
    exact debounce_joined live.follows (live.joined a more rfl)

end Gesture
