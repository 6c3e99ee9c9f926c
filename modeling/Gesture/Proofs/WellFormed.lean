import Gesture.Proofs.Owed
import Gesture.Proofs.OnePass

namespace Gesture

open Event

namespace Event

def edgesOf (b : Button) (events : List Event) : List Edge :=
  (events.filter (·.button = b)).map (·.edge)

theorem edgesOf_cons (b : Button) (e : Event) (rest : List Event) :
    edgesOf b (e :: rest) = if e.button = b then e.edge :: edgesOf b rest else edgesOf b rest := by
  unfold edgesOf
  by_cases same : e.button = b
  · rw [if_pos same, List.filter_cons_of_pos (by simpa using same), List.map_cons]
  · rw [if_neg same, List.filter_cons_of_neg (by simpa using same)]

theorem mem_apply {down : List Button} (nodup : down.Nodup) (e : Event) {b : Button} :
    b ∈ e.edge.apply down e.button ↔ if e.button = b then e.edge = .press else b ∈ down := by
  cases edge : e.edge with
  | press =>
    by_cases same : e.button = b
    · simp [Edge.apply, same]
    · simp [Edge.apply, same, Ne.symm same]
  | release =>
    by_cases same : e.button = b
    · simp [Edge.apply, same, nodup.not_mem_erase]
    · simp [Edge.apply, same, List.mem_erase_of_ne (Ne.symm same)]

theorem edgesOf_alternating {down : List Button} {events : List Event} (nodup : down.Nodup)
    (follows : Follows down events) {b : Button} {i : Nat} {edge : Edge}
    (there : (edgesOf b events)[i]? = some edge) :
    edge = if (if b ∈ down then i + 1 else i) % 2 = 0 then .press else .release := by
  induction events generalizing down i with
  | nil => cases there
  | cons e rest ih =>
    obtain ⟨fits, later⟩ := follows
    have nodup' := apply_nodup nodup fits
    rw [edgesOf_cons] at there
    by_cases same : e.button = b
    · subst same
      rw [if_pos rfl] at there
      have here : e.button ∈ e.edge.apply down e.button ↔ e.edge = .press := by
        rw [mem_apply nodup, if_pos rfl]
      -- The places of the events of this button after it are one less, and it is down just if it was up.
      cases i with
      | zero =>
        obtain rfl : e.edge = edge := by simpa using there
        simp only [← fits]
        cases e.edge <;> rfl
      | succ i =>
        rw [ih nodup' later (i := i) (by simpa using there)]
        simp only [here, ← fits]
        have twice : (i + 1 + 1) % 2 = i % 2 := by omega
        cases e.edge <;> simp [twice]
    · rw [if_neg same] at there
      have here : b ∈ e.edge.apply down e.button ↔ b ∈ down := by rw [mem_apply nodup, if_neg same]
      simpa only [here] using ih nodup' later there

/-- The presses among events that no later event of their button follows. -/
def lastPresses : List Event → List Event
  | [] => []
  | e :: rest =>
    if e.edge = .press ∧ e.button ∉ rest.map (·.button) then e :: lastPresses rest else lastPresses rest

/-- What events leave down: what was down before and is not among them, and then what they press last. This
    is so too if some of what was down is left out of account. -/
theorem heldFrom_eq_lastPresses {less down : List Button} {events : List Event} (nodup : down.Nodup)
    (fewer : less.Sublist down) (follows : Follows down events) :
    heldFrom less events =
      less.filter (· ∉ events.map (·.button)) ++ (lastPresses events).map (·.button) := by
  induction events generalizing less down with
  | nil => simp [heldFrom, lastPresses]
  | cons e rest ih =>
    obtain ⟨fits, later⟩ := follows
    have others : less.filter (· ∉ (e :: rest).map (·.button)) =
        (less.filter (· ≠ e.button)).filter (· ∉ rest.map (·.button)) := by
      rw [List.filter_filter]
      apply List.filter_congr
      intro b _
      grind
    have next : heldFrom less (e :: rest) =
        (e.edge.apply less e.button).filter (· ∉ rest.map (·.button)) ++
          (lastPresses rest).map (·.button) := ih (apply_nodup nodup fits) (apply_sublist fewer e) later
    rw [others, next, lastPresses]
    cases edge : e.edge with
    | press =>
      -- The button is up before its press, so that it comes last among what is down.
      have up : e.button ∉ less := fun member => by simpa [edge] using fits.mpr (fewer.subset member)
      have same : less.filter (· ≠ e.button) = less := by
        apply List.filter_eq_self.mpr
        intro b member
        simpa using fun same : b = e.button => up (same ▸ member)
      rw [same, Edge.apply, List.filter_append, List.append_assoc]
      congr 1
      by_cases last : e.button ∉ rest.map (·.button)
      · rw [if_pos ⟨rfl, last⟩, List.filter_cons_of_pos (by simpa using last)]
        rfl
      · rw [if_neg (fun h => last h.2), List.filter_cons_of_neg (by simpa using last)]
        rfl
    | release =>
      have same : less.erase e.button = less.filter (· ≠ e.button) := by
        rw [(nodup.sublist fewer).erase_eq_filter]
        apply List.filter_congr
        intro b _
        grind
      rw [Edge.apply, same, if_neg (fun h => by cases h.1)]

theorem held_eq_lastPresses {down : List Button} {events : List Event} (nodup : down.Nodup)
    (follows : Follows down events) : held events = (lastPresses events).map (·.button) :=
  heldFrom_eq_lastPresses nodup (List.nil_sublist down) follows

end Event

def ChatterFree (maxMillis : Int) (events : List Event) : Prop :=
  ∀ first middle last, [first, middle, last] <:+: events → isChatter maxMillis first middle last = false

theorem chatterFree_cons {maxMillis : Int} {a : Event} {rest : List Event} :
    ChatterFree maxMillis (a :: rest) ↔
      (∀ middle last, [middle, last] <+: rest → isChatter maxMillis a middle last = false) ∧
        ChatterFree maxMillis rest := by
  constructor
  · intro free
    refine ⟨?_, ?_⟩
    · rintro middle last ⟨after, rfl⟩
      exact free a middle last ⟨[], after, rfl⟩
    · intro first middle last inside
      exact free first middle last (inside.trans (List.suffix_cons a rest).isInfix)
  · rintro ⟨start, later⟩ first middle last inside
    rcases List.infix_cons_iff.mp inside with ahead | inside
    · obtain ⟨rfl, next⟩ := List.cons_prefix_cons.mp ahead
      exact start middle last next
    · exact later first middle last inside

theorem chatterFree_debounce (maxMillis : Int) (events : List Event) :
    ChatterFree maxMillis (debounce maxMillis events) := by
  fun_induction debounce maxMillis events with
  | case1 a b c rest chatter ih =>
    -- The first press is left in the place of the third event, and chatter does not tell the two apart.
    obtain ⟨press, _, again, _, same⟩ := isChatter_apply chatter
    rw [debounce_cons, chatterFree_cons] at ih
    refine chatterFree_cons.mpr ⟨?_, ih.2⟩
    intro middle last ahead
    rw [isChatter_first same.symm (press.trans again.symm)]
    exact ih.1 middle last ahead
  | case2 a b c rest steady ih =>
    refine chatterFree_cons.mpr ⟨?_, ih⟩
    intro middle last ahead
    rw [debounce_cons] at ahead
    obtain ⟨rfl, next⟩ := List.cons_prefix_cons.mp ahead
    cases edge : middle.edge with
    | press => simp [isChatter, edge]
    | release =>
      -- A release keeps the event after it.
      rw [debounce_keep (by simp [isChatter, edge]), List.tail_cons, debounce_cons] at next
      obtain ⟨rfl, _⟩ := List.cons_prefix_cons.mp next
      simpa using steady
  | case3 short few =>
    rintro first middle last ⟨before, after, rfl⟩
    rcases before with _ | ⟨a, _ | ⟨b, _ | ⟨c, before⟩⟩⟩ <;> exact absurd rfl (few _ _ _ _)

namespace Buffer

structure WellFormed (b : Buffer) : Prop where
  alternating : ∀ (button : Button) (i : Nat) (edge : Edge), (edgesOf button b.events)[i]? = some edge →
    edge = if i % 2 = 0 then .press else .release
  joined : ∀ before e after, b.events = before ++ e :: after → before ≠ [] → lastPresses before = [] →
    e.elapsed ≤ b.maxMillis
  steady : ∀ first middle last, [first, middle, last] <:+: b.events →
    middle.button = first.button → last.button = first.button →
    first.edge = .press → middle.edge = .release → last.edge = .press →
    ¬(middle.elapsed ≤ b.chatterMillis ∧ last.elapsed ≤ b.chatterMillis)
  held : b.heldReleases = (lastPresses b.events).map (·.button.token .release)
  nodup : b.heldReleases.Nodup

theorem wellFormed_of_holds {b : Buffer} {events : List Event} (holds : b.Holds events) :
    b.WellFormed := by
  have live := holds.live
  refine ⟨?alternating, ?joined, ?steady, ?held, ?nodup⟩
  case alternating =>
    intro button i edge there
    simpa using edgesOf_alternating List.nodup_nil live.follows there
  case joined =>
    intro before e after whole some up
    cases before with
    | nil => exact absurd rfl some
    | cons first before =>
      have follows : Follows [] (first :: before) := (follows_append.mp (whole ▸ live.follows)).1
      have nothing : Event.held (first :: before) = [] := by
        rw [held_eq_lastPresses List.nodup_nil follows, up, List.map_nil]
      exact (joined_append.mp (live.joined first _ whole)).2.1 nothing
  case steady =>
    intro first middle last inside same same' press release again short
    have steady : isChatter b.chatterMillis first middle last = false := by
      have free := chatterFree_debounce b.chatterMillis (trim b.maxMillis events)
      rw [← holds] at free
      exact free first middle last inside
    simp [isChatter, same, same', press, release, again, short] at steady
  case held =>
    rw [heldReleases, Event.heldReleases, held_eq_lastPresses List.nodup_nil live.follows, List.map_map]
    rfl
  case nodup =>
    exact (live.follows.nodup List.nodup_nil).map fun _ _ => Button.token_inj.mp

/-- After any operations a buffer has the thresholds it was made with and is well formed: the events of
    each button alternate, beginning with a press; no event but the first comes after a silence with
    nothing down; no three events in a row are chatter; and the releases still to come are those of
    the buttons that were pressed last, in the order of these presses. -/
theorem wellFormed_ofOperations (maxMillis chatterMillis : Int) (operations : List Operation) :
    let b := (Course.ofOperations maxMillis chatterMillis operations).buffer
    b.maxMillis = maxMillis ∧ b.chatterMillis = chatterMillis ∧ b.WellFormed := by
  have agrees := Course.agrees_ofOperations maxMillis chatterMillis operations
  exact ⟨agrees.silence, agrees.chatter, wellFormed_of_holds agrees.holds⟩

end Buffer

end Gesture
