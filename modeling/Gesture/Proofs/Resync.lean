import Gesture.Proofs.Custody
import Gesture.Proofs.WellFormed

namespace Gesture

open Event

namespace Buffer

structure Within (b : Buffer) (down : List Button) : Prop where
  follows : Follows [] b.events
  held : ∀ button ∈ Event.held b.events, button ∈ down

section

variable {b : Buffer} {down : List Button}

theorem within_of_empty (empty : b.events = []) (down : List Button) : b.Within down := by
  constructor
  · rw [empty]
    exact trivial
  · intro button member
    rw [empty] at member
    cases member

theorem within_of_appendLost (follows : Follows [] b.events) {e : Event} (lost : b.appendLost e ≠ [])
    (down : List Button) : (b.append e).Within down := by
  have misfit : ¬(e.edge = .release ↔ e.button ∈ Event.held b.events) := by
    intro fits
    exact lost (append_held (follows_append.mpr ⟨follows, fits, trivial⟩)).1
  exact within_of_empty (append_misfit follows misfit) down

theorem Within.append (within : b.Within down) (nodup : down.Nodup) (e : Event) :
    (b.append e).Within (e.edge.apply down e.button) := by
  by_cases fits : e.edge = .release ↔ e.button ∈ Event.held b.events
  · obtain ⟨_, kept, held⟩ := append_held (follows_append.mpr ⟨within.follows, fits, trivial⟩)
    refine ⟨kept, fun button member => ?_⟩
    have nodup' : (Event.held b.events).Nodup := within.follows.nodup List.nodup_nil
    rw [held, mem_apply nodup'] at member
    rw [mem_apply nodup]
    by_cases same : e.button = button
    · rwa [if_pos same] at member ⊢
    · rw [if_neg same] at member ⊢
      exact within.held button member
  · exact within_of_empty (append_misfit within.follows fits) _

theorem Within.extend (within : b.Within down) (nodup : down.Nodup) {events : List Event}
    (follows : Follows down events) : (b.extend events).Within (heldFrom down events) := by
  induction events generalizing b down with
  | nil => exact within
  | cons e rest ih => exact ih (within.append nodup e) (apply_nodup nodup follows.1) follows.2

end

/-- A buffer that operations led to gets events of hardware with nothing down at first, and finds an edge
    lost on the way. From the next time on that nothing is down, no event that the hardware can go on with
    is found lost, and the releases still to come are those of the buttons that are down, in the order of
    their presses. -/
theorem in_step_after_all_up (maxMillis chatterMillis : Int) (operations : List Operation)
    (before between after : List Event) (e : Event)
    (follows : Follows [] (before ++ e :: between ++ after))
    (lost : ((Course.ofOperations maxMillis chatterMillis operations).buffer.extend before).appendLost e ≠ [])
    (up : Event.held (before ++ e :: between) = []) :
    let b := (Course.ofOperations maxMillis chatterMillis operations).buffer.extend (before ++ e :: between)
    b.extendLost after = [] ∧ ∀ seen, seen <+: after →
      (b.extend seen).heldReleases = Event.heldReleases (before ++ e :: between ++ seen) := by
  intro b
  obtain ⟨physical, later⟩ := follows_append.mp follows
  obtain ⟨first, next, rest⟩ := follows_append.mp physical
  have reached := (Course.agrees_ofOperations maxMillis chatterMillis operations).holds.live.follows
  -- What is down when the edge is found lost bounds what the buffer holds from there on.
  have bounded : b.Within (Event.held (before ++ e :: between)) := by
    have nodup := apply_nodup (first.nodup List.nodup_nil) next
    have within := (within_of_appendLost (extend_follows reached before).1 lost _).extend nodup rest
    simpa only [b, Event.held, heldFrom, extend, List.foldl_append, List.foldl_cons] using within
  rw [up] at bounded
  have step : Event.held b.events = heldFrom [] (before ++ e :: between) :=
    (List.eq_nil_iff_forall_not_mem.mpr fun button member =>
      List.not_mem_nil (bounded.held button member)).trans up.symm
  constructor
  · exact (extend_held bounded.follows (step ▸ later)).1
  · rintro seen ⟨unseen, rfl⟩
    have fits := (follows_append.mp later).1
    rw [heldReleases, Event.heldReleases, (extend_held bounded.follows (step ▸ fits)).2.2, step,
      ← heldFrom_append]
    rfl

/-- The hardware has two keys down when the buffer, which has an old press of one of them, forgets both. -/
def staleTrack : List Event :=
  [⟨.volumeDown, .press, 20⟩, ⟨.volumeUp, .release, 40⟩, ⟨.volumeDown, .release, 15⟩]

/-- The press of the key that seems to be down is found lost, and then both releases are. From there on a
    click is no surprise, and in the middle of it the release of its key is to come. -/
theorem in_step_after_all_up_staleTrack :
    let start := (Course.ofOperations 350 10 [.append ⟨.volumeUp, .press, 0⟩]).buffer
    let click : List Event := [⟨.volumeUp, .press, 90⟩, ⟨.volumeUp, .release, 60⟩]
    let b := start.extend (⟨.volumeUp, .press, 500⟩ :: staleTrack)
    (start.extendLost (⟨.volumeUp, .press, 500⟩ :: staleTrack)).map (fun lost => (lost.button, lost.edge)) =
        [(.volumeUp, .press), (.volumeUp, .release), (.volumeDown, .release)] ∧
      b.extendLost click = [] ∧
      (b.extend (click.take 1)).heldReleases = [Button.volumeUp.token .release] := by
  intro start click b
  have follows : Follows [] (⟨.volumeUp, .press, 500⟩ :: staleTrack ++ click) := by
    simp [Follows, staleTrack, click, Edge.apply]
  obtain ⟨expected, named⟩ := in_step_after_all_up 350 10 [.append ⟨.volumeUp, .press, 0⟩] [] staleTrack click
    ⟨.volumeUp, .press, 500⟩ follows (by decide) (by decide)
  exact ⟨by decide, expected, named (click.take 1) (List.take_prefix 1 click)⟩

end Buffer

end Gesture
