import Gesture.Buffer
import Mathlib.Data.List.Nodup

namespace Gesture

namespace Event

def heldFrom (down : List Button) (events : List Event) : List Button :=
  events.foldl (fun down e => e.edge.apply down e.button) down

/-- Events that fit together when `down` are down: each one is a release just if its button is down. -/
def Follows : List Button → List Event → Prop
  | _, [] => True
  | down, e :: rest =>
    (e.edge = .release ↔ e.button ∈ down) ∧ Follows (e.edge.apply down e.button) rest

theorem heldFrom_append (down : List Button) (left right : List Event) :
    heldFrom down (left ++ right) = heldFrom (heldFrom down left) right :=
  List.foldl_append

theorem held_append (left right : List Event) : held (left ++ right) = heldFrom (held left) right :=
  heldFrom_append [] left right

theorem follows_append {down : List Button} {left right : List Event} :
    Follows down (left ++ right) ↔ Follows down left ∧ Follows (heldFrom down left) right := by
  induction left generalizing down with
  | nil => simp only [List.nil_append, Follows, heldFrom, List.foldl_nil, true_and]
  | cons e rest ih => simp only [List.cons_append, Follows, ih, and_assoc]; rfl

theorem apply_nodup {down : List Button} (nodup : down.Nodup) {e : Event}
    (fits : e.edge = .release ↔ e.button ∈ down) : (e.edge.apply down e.button).Nodup := by
  cases edge : e.edge with
  | press =>
    have up : e.button ∉ down := by simpa [edge] using fits
    have fresh : List.Disjoint down [e.button] := by simpa using up
    exact List.nodup_append'.mpr ⟨nodup, List.nodup_singleton _, fresh⟩
  | release => exact nodup.erase e.button

theorem apply_sublist {less down : List Button} (fewer : less.Sublist down) (e : Event) :
    (e.edge.apply less e.button).Sublist (e.edge.apply down e.button) := by
  cases e.edge with
  | press => exact fewer.append_right [e.button]
  | release => exact fewer.erase e.button

theorem Follows.nodup {down : List Button} {events : List Event} (follows : Follows down events)
    (nodup : down.Nodup) : (heldFrom down events).Nodup := by
  induction events generalizing down with
  | nil => exact nodup
  | cons e rest ih => exact ih follows.2 (apply_nodup nodup follows.1)

end Event

open Event

/-- The live events of a scan fit together and leave down what the scan says. -/
structure Scan.Sound (s : Scan) : Prop where
  follows : Follows [] s.live
  down : heldFrom [] s.live = s.down

namespace Scan

def liveBefore (maxMillis : Int) (s : Scan) (e : Event) : List Event :=
  if s.down.isEmpty && decide (maxMillis < e.elapsed) then [] else s.live

theorem step_of_fits {s : Scan} {e : Event} (fits : e.edge = .release ↔ e.button ∈ s.down)
    (maxMillis : Int) :
    s.step maxMillis e = ⟨s.seen + 1, s.liveBefore maxMillis e ++ [e],
      e.edge.apply s.down e.button, s.lost⟩ := by
  obtain ⟨button, edge, elapsed⟩ := e
  cases edge <;> simp_all [step, liveBefore, Edge.apply]

theorem step_of_misfit {s : Scan} {e : Event} (misfit : ¬(e.edge = .release ↔ e.button ∈ s.down))
    (maxMillis : Int) :
    s.step maxMillis e =
      ⟨s.seen + 1, [], [], s.lost ++ [⟨e.button, e.edge, s.seen + 1⟩]⟩ := by
  obtain ⟨button, edge, elapsed⟩ := e
  cases edge <;> simp_all [step]

theorem Sound.liveBefore {s : Scan} (sound : s.Sound) (maxMillis : Int) (e : Event) :
    Follows [] (s.liveBefore maxMillis e) ∧ heldFrom [] (s.liveBefore maxMillis e) = s.down := by
  unfold Scan.liveBefore
  split
  · rename_i silence
    simp only [Bool.and_eq_true, List.isEmpty_iff] at silence
    exact ⟨trivial, silence.1.symm⟩
  · exact ⟨sound.follows, sound.down⟩

theorem Sound.step {s : Scan} (sound : s.Sound) (maxMillis : Int) (e : Event) :
    (s.step maxMillis e).Sound := by
  by_cases fits : e.edge = .release ↔ e.button ∈ s.down
  · obtain ⟨follows, down⟩ := sound.liveBefore maxMillis e
    rw [step_of_fits fits]
    constructor
    · exact follows_append.mpr ⟨follows, by rw [down]; exact ⟨fits, trivial⟩⟩
    · rw [heldFrom_append, down]
      rfl
  · rw [step_of_misfit fits]
    exact ⟨trivial, rfl⟩

theorem Sound.foldl {s : Scan} (sound : s.Sound) (maxMillis : Int) (events : List Event) :
    (events.foldl (Scan.step maxMillis) s).Sound := by
  induction events generalizing s with
  | nil => exact sound
  | cons e rest ih => exact ih (sound.step maxMillis e)

theorem foldl_of_follows {s : Scan} {events : List Event} (follows : Follows s.down events)
    (maxMillis : Int) :
    (events.foldl (step maxMillis) s).lost = s.lost ∧
      (events.foldl (step maxMillis) s).down = heldFrom s.down events := by
  induction events generalizing s with
  | nil => exact ⟨rfl, rfl⟩
  | cons e rest ih =>
    have next := step_of_fits follows.1 maxMillis
    have later := ih (s := s.step maxMillis e) (by rw [next]; exact follows.2)
    rw [List.foldl_cons, later.1, later.2, next]
    exact ⟨rfl, rfl⟩

end Scan

theorem follows_trim (maxMillis : Int) (events : List Event) : Follows [] (trim maxMillis events) :=
  (Scan.Sound.foldl (s := {}) ⟨trivial, rfl⟩ maxMillis events).follows

theorem trimLost_of_follows {events : List Event} (follows : Follows [] events) (maxMillis : Int) :
    trimLost maxMillis events = [] :=
  (Scan.foldl_of_follows (s := {}) follows maxMillis).1

theorem held_trim {events : List Event} (follows : Follows [] events) (maxMillis : Int) :
    held (trim maxMillis events) = held events := by
  have sound := Scan.Sound.foldl (s := {}) ⟨trivial, rfl⟩ maxMillis events
  exact sound.down.trans (Scan.foldl_of_follows (s := {}) follows maxMillis).2

theorem debounce_cons (maxMillis : Int) (e : Event) (rest : List Event) :
    debounce maxMillis (e :: rest) = e :: (debounce maxMillis (e :: rest)).tail := by
  rcases rest with _ | ⟨b, _ | ⟨c, rest⟩⟩
  · rfl
  · rfl
  · simp only [debounce]
    split <;> rfl

/-- Between two presses of chatter nothing changes but the button itself. -/
theorem isChatter_apply {maxMillis : Int} {a b c : Event} (chatter : isChatter maxMillis a b c = true) :
    a.edge = .press ∧ b.edge = .release ∧ c.edge = .press ∧ b.button = a.button ∧
      c.button = a.button := by
  simp only [isChatter, Bool.and_eq_true, beq_iff_eq] at chatter
  obtain ⟨⟨⟨⟨⟨⟨first, second⟩, press⟩, release⟩, again⟩, _⟩, _⟩ := chatter
  exact ⟨press, release, again, first.symm, (first.trans second).symm⟩

theorem isChatter_back {maxMillis : Int} {a b c : Event} {down : List Button}
    (chatter : isChatter maxMillis a b c = true) (fits : a.edge = .release ↔ a.button ∈ down) :
    b.edge.apply (a.edge.apply down a.button) b.button = down ∧
      c.edge.apply down c.button = a.edge.apply down a.button := by
  obtain ⟨press, release, again, same, same'⟩ := isChatter_apply chatter
  have up : a.button ∉ down := by simpa [press] using fits
  constructor
  · simp [press, release, same, Edge.apply, List.erase_append_right _ up]
  · rw [press, again, same']

theorem debounce_held (maxMillis : Int) {down : List Button} {events : List Event}
    (follows : Follows down events) :
    Follows down (debounce maxMillis events) ∧
      heldFrom down (debounce maxMillis events) = heldFrom down events := by
  fun_induction debounce maxMillis events generalizing down with
  | case1 a b c rest chatter ih =>
    obtain ⟨fits, _, later⟩ := follows
    -- The rest follows on what was down at the start.
    obtain ⟨back, repress⟩ := isChatter_back chatter fits
    rw [back] at later
    obtain ⟨follows', held'⟩ := ih later
    rw [debounce_cons] at follows' held'
    constructor
    · exact ⟨fits, repress ▸ follows'.2⟩
    · calc heldFrom down (a :: (debounce maxMillis (c :: rest)).tail)
          = heldFrom down (c :: (debounce maxMillis (c :: rest)).tail) := by
            simp only [heldFrom, List.foldl_cons, repress]
        _ = heldFrom down (c :: rest) := held'
        _ = heldFrom down (a :: b :: c :: rest) := by
            simp only [heldFrom, List.foldl_cons, back]
  | case2 a b c rest steady ih => exact ⟨⟨follows.1, (ih follows.2).1⟩, (ih follows.2).2⟩
  | case3 short => exact ⟨follows, rfl⟩

theorem Scan.live_sublist (maxMillis : Int) {s : Scan} {read : List Event}
    (kept : s.live.Sublist read) (events : List Event) :
    (events.foldl (Scan.step maxMillis) s).live.Sublist (read ++ events) := by
  induction events generalizing s read with
  | nil => rwa [List.append_nil]
  | cons e rest ih =>
    rw [List.append_cons, List.foldl_cons]
    apply ih
    by_cases fits : e.edge = .release ↔ e.button ∈ s.down
    · rw [step_of_fits fits]
      refine List.Sublist.append ?_ (.refl [e])
      unfold liveBefore
      split
      · exact List.nil_sublist read
      · exact kept
    · rw [step_of_misfit fits]
      exact List.nil_sublist _

theorem trim_sublist (maxMillis : Int) (events : List Event) :
    (trim maxMillis events).Sublist events := by
  have kept : ({} : Scan).live.Sublist [] := .refl []
  exact Scan.live_sublist maxMillis kept events

theorem debounce_sublist (maxMillis : Int) (events : List Event) :
    (debounce maxMillis events).Sublist events := by
  fun_induction debounce maxMillis events with
  | case1 a b c rest chatter ih =>
    rw [debounce_cons] at ih
    exact (((List.cons_sublist_cons.mp ih).cons c).cons b).cons_cons a
  | case2 a b c rest steady ih => exact ih.cons_cons a
  | case3 short => exact .refl short

namespace Buffer

theorem append_sublist (b : Buffer) (e : Event) : (b.append e).events.Sublist (b.events ++ [e]) :=
  (debounce_sublist b.chatterMillis _).trans (trim_sublist b.maxMillis _)

theorem extend_sublist (b : Buffer) (events : List Event) :
    (b.extend events).events.Sublist (b.events ++ events) := by
  induction events generalizing b with
  | nil => rw [List.append_nil]; exact .refl _
  | cons e rest ih =>
    rw [List.append_cons]
    exact (ih (b.append e)).trans ((append_sublist b e).append_right rest)

theorem append_held {b : Buffer} {e : Event} (follows : Follows [] (b.events ++ [e])) :
    b.appendLost e = [] ∧ Follows [] (b.append e).events ∧
      held (b.append e).events = e.edge.apply (held b.events) e.button := by
  have trimmed := follows_trim b.maxMillis (b.events ++ [e])
  obtain ⟨kept, same⟩ := debounce_held b.chatterMillis trimmed
  refine ⟨trimLost_of_follows follows b.maxMillis, kept, ?_⟩
  calc held (b.append e).events
      = held (trim b.maxMillis (b.events ++ [e])) := same
    _ = held (b.events ++ [e]) := held_trim follows b.maxMillis
    _ = e.edge.apply (held b.events) e.button := held_append b.events [e]

theorem extend_held {b : Buffer} {events : List Event} (follows : Follows [] b.events)
    (next : Follows (held b.events) events) :
    b.extendLost events = [] ∧ Follows [] (b.extend events).events ∧
      held (b.extend events).events = heldFrom (held b.events) events := by
  induction events generalizing b with
  | nil => exact ⟨rfl, follows, rfl⟩
  | cons e rest ih =>
    obtain ⟨lost, kept, down⟩ :=
      append_held (e := e) (follows_append.mpr ⟨follows, next.1, trivial⟩)
    obtain ⟨lost', kept', down'⟩ := ih kept (by rw [down]; exact next.2)
    refine ⟨?_, kept', ?_⟩
    · rw [extendLost, lost, lost']
      rfl
    · rw [down] at down'
      exact down'

end Buffer

end Gesture
