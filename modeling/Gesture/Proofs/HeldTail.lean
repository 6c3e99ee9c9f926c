import Gesture.Proofs.Repetition
import Gesture.Proofs.WellFormed

namespace Gesture

namespace Event

structure LastPress (b : Button) (events : List Event) (place : Nat) : Prop where
  press : ∃ e, events[place]? = some e ∧ e.button = b ∧ e.edge = .press
  last : ∀ later e, place < later → events[later]? = some e → ¬(e.button = b ∧ e.edge = .press)

theorem lastPress_append (before : List Event) {after : List Event} {e : Event} (press : e.edge = .press)
    (last : e.button ∉ after.map (·.button)) :
    LastPress e.button (before ++ e :: after) before.length where
  press := ⟨e, by simp, rfl, press⟩
  last := by
    intro later x behind there
    obtain ⟨k, rfl⟩ : ∃ k, later = before.length + (k + 1) := ⟨later - before.length - 1, by omega⟩
    rw [List.getElem?_append_right (by omega), Nat.add_sub_cancel_left, List.getElem?_cons_succ] at there
    rintro ⟨same, _⟩
    exact last (same ▸ List.mem_map_of_mem (List.mem_of_getElem? there))

theorem split_of_mem_lastPresses {events : List Event} {e : Event} (member : e ∈ lastPresses events) :
    e.edge = .press ∧ ∃ before after, events = before ++ e :: after ∧ e.button ∉ after.map (·.button) := by
  induction events with
  | nil => cases member
  | cons first rest ih =>
    have later : e ∈ lastPresses rest → e.edge = .press ∧ ∃ before after,
        first :: rest = before ++ e :: after ∧ e.button ∉ after.map (·.button) := by
      intro member
      obtain ⟨press, before, after, rfl, last⟩ := ih member
      exact ⟨press, first :: before, after, rfl, last⟩
    rw [lastPresses] at member
    split at member
    · rename_i last
      rcases List.mem_cons.mp member with rfl | member
      · exact ⟨last.1, [], rest, rfl, last.2⟩
      · exact later member
    · exact later member

section

variable {before last : List Event}

theorem held_append_eq (follows : Follows [] (before ++ last)) :
    held (before ++ last) = (held before).filter (· ∉ last.map (·.button)) ++ held last := by
  obtain ⟨first, later⟩ := follows_append.mp follows
  have nodup := first.nodup List.nodup_nil
  rw [held_append, held_eq_lastPresses nodup later]
  exact heldFrom_eq_lastPresses nodup (.refl _) later

theorem mem_held_tail (follows : Follows [] (before ++ last)) {b : Button} :
    b ∈ held last ↔
      b ∈ held (before ++ last) ∧ ∃ place, LastPress b (before ++ last) place ∧ before.length ≤ place := by
  obtain ⟨first, later⟩ := follows_append.mp follows
  rw [held_append_eq follows, List.mem_append]
  constructor
  · intro down
    refine ⟨.inr down, ?_⟩
    rw [held_eq_lastPresses (first.nodup List.nodup_nil) later] at down
    obtain ⟨e, member, rfl⟩ := List.mem_map.mp down
    obtain ⟨press, more, after, rfl, last⟩ := split_of_mem_lastPresses member
    rw [← List.append_assoc]
    exact ⟨_, lastPress_append (before ++ more) press last, by simp⟩
  · rintro ⟨old | down, place, pressed, inside⟩
    · -- Its last press is one of the last events, and a button from before has none of them.
      obtain ⟨e, there, rfl, _⟩ := pressed.press
      rw [List.getElem?_append_right inside] at there
      have member := List.mem_map_of_mem (f := (·.button)) (List.mem_of_getElem? there)
      simpa [member] using (List.mem_filter.mp old).2
    · exact down

end

end Event

open Event

namespace Buffer

section

variable {a : Action} {b : Buffer}

theorem holdReleases_suffix_of_follows (follows : Follows [] b.events)
    (ends : matchesEnd a.pattern b.tokens = true) : a.holdReleases <:+ b.heldReleases := by
  obtain ⟨before, last, parts, pattern⟩ := exists_last_of_matchesEnd ends
  rw [parts] at follows
  rw [holdReleases_eq pattern, heldReleases, parts, Event.heldReleases, Event.heldReleases,
    held_append_eq follows, List.map_append]
  exact List.suffix_append _ _

theorem mem_holdReleases_of_follows (follows : Follows [] b.events)
    (ends : matchesEnd a.pattern b.tokens = true) {button : Button} :
    button.token .release ∈ a.holdReleases ↔ button.token .release ∈ b.heldReleases ∧
      ∃ place, LastPress button b.events place ∧ b.tokens.length ≤ place + a.pattern.length := by
  obtain ⟨before, last, parts, pattern⟩ := exists_last_of_matchesEnd ends
  rw [parts] at follows
  rw [holdReleases_eq pattern, heldReleases, mem_heldReleases, mem_heldReleases, tokens, parts,
    mem_held_tail follows, ← pattern]
  simp only [List.length_map, List.length_append, Nat.add_le_add_iff_right]

end

/-- After any operations a buffer may end with the pattern of an action. The releases still to come after the
    pattern are then all different and the last of those still to come after the buffer, in the same
    order: they are those of the buttons whose last press is one of the events that the pattern stands
    for. If the pattern is the whole buffer, they are the same. -/
theorem holdReleases_of_matchesEnd (maxMillis chatterMillis : Int) (operations : List Operation) (a : Action)
    (ends : matchesEnd a.pattern (Course.ofOperations maxMillis chatterMillis operations).buffer.tokens = true) :
    let b := (Course.ofOperations maxMillis chatterMillis operations).buffer
    a.holdReleases.Nodup ∧ a.holdReleases <:+ b.heldReleases ∧
      (∀ button : Button, button.token .release ∈ a.holdReleases ↔
        button.token .release ∈ b.heldReleases ∧
          ∃ place, LastPress button b.events place ∧ b.tokens.length ≤ place + a.pattern.length) ∧
      (a.pattern = b.tokens → a.holdReleases = b.heldReleases) := by
  intro b
  have holds := (Course.agrees_ofOperations maxMillis chatterMillis operations).holds
  have follows : Follows [] b.events := holds.live.follows
  have suffix := holdReleases_suffix_of_follows follows ends
  have nodup : b.heldReleases.Nodup := (wellFormed_of_holds holds).nodup
  refine ⟨nodup.sublist suffix.sublist, suffix, fun _ => mem_holdReleases_of_follows follows ends, ?_⟩
  intro whole
  exact holdReleases_eq whole.symm

/-- One key is let go while another is down, and a third one goes down. -/
def handOver : List Operation :=
  [.append ⟨.volumeDown, .press, 0⟩,
    .extend [⟨.power, .press, 40⟩, ⟨.volumeDown, .release, 30⟩, ⟨.volumeUp, .press, 60⟩]]

/-- The pattern begins with a release of which it does not have the press. -/
def afterHandOver : Action :=
  ⟨"cmd(a)", .shell "a", [Button.volumeDown.token .release, Button.volumeUp.token .press], .always, "always"⟩

theorem holdReleases_of_matchesEnd_handOver :
    let b := (Course.ofOperations 350 10 handOver).buffer
    matchesEnd afterHandOver.pattern b.tokens = true ∧
      b.heldReleases = [Button.power.token .release, Button.volumeUp.token .release] ∧
      afterHandOver.holdReleases = [Button.volumeUp.token .release] ∧
      afterHandOver.holdReleases.Nodup ∧ afterHandOver.holdReleases <:+ b.heldReleases ∧
      LastPress .power b.events 1 ∧
      ¬∃ place, LastPress .power b.events place ∧ 4 ≤ place + afterHandOver.pattern.length := by
  intro b
  have ends : matchesEnd afterHandOver.pattern b.tokens = true := by decide
  obtain ⟨nodup, suffix, inside, _⟩ := holdReleases_of_matchesEnd 350 10 handOver afterHandOver ends
  have down : Button.power.token .release ∈ b.heldReleases := by decide
  have left : Button.power.token .release ∉ afterHandOver.holdReleases := by decide
  have first : LastPress .power b.events 1 :=
    lastPress_append [⟨.volumeDown, .press, 0⟩] (e := ⟨.power, .press, 40⟩) rfl (by decide)
  exact ⟨ends, by decide, by decide, nodup, suffix, first,
    fun pressed => left ((inside .power).mpr ⟨down, pressed⟩)⟩

end Buffer

end Gesture
