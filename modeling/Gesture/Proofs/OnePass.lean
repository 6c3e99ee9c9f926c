import Gesture.Proofs.Live
import Mathlib.Data.List.Induction

namespace Gesture

open Event

theorem isChatter_first {maxMillis : Int} {a b : Event} (button : a.button = b.button)
    (edge : a.edge = b.edge) (middle last : Event) :
    isChatter maxMillis a middle last = isChatter maxMillis b middle last := by
  simp only [isChatter, button, edge]

theorem debounce_first {maxMillis : Int} {a b : Event} (button : a.button = b.button)
    (edge : a.edge = b.edge) (rest : List Event) :
    (debounce maxMillis (a :: rest)).tail = (debounce maxMillis (b :: rest)).tail := by
  rcases rest with _ | ⟨c, _ | ⟨d, rest⟩⟩
  · rfl
  · rfl
  · simp only [debounce, isChatter_first button edge c d]
    split <;> rfl

theorem debounce_steady {maxMillis : Int} {a b c : Event} (steady : isChatter maxMillis a b c = false)
    (rest : List Event) :
    debounce maxMillis (a :: b :: c :: rest) = a :: debounce maxMillis (b :: c :: rest) := by
  rw [debounce, if_neg (by rw [steady]; exact Bool.false_ne_true)]

theorem debounce_keep {maxMillis : Int} {a b : Event} (steady : ∀ c, isChatter maxMillis a b c = false)
    (rest : List Event) : debounce maxMillis (a :: b :: rest) = a :: debounce maxMillis (b :: rest) := by
  cases rest with
  | nil => rfl
  | cons c rest => exact debounce_steady (steady c) rest

theorem debounce_append (maxMillis : Int) (events : List Event) (e : Event) :
    debounce maxMillis (debounce maxMillis events ++ [e]) = debounce maxMillis (events ++ [e]) := by
  fun_induction debounce maxMillis events with
  | case1 a b c rest chatter ih =>
    obtain ⟨press, _, again, _, same⟩ := isChatter_apply chatter
    rw [debounce_cons] at ih
    calc debounce maxMillis (a :: (debounce maxMillis (c :: rest)).tail ++ [e])
        = a :: (debounce maxMillis (a :: ((debounce maxMillis (c :: rest)).tail ++ [e]))).tail :=
          debounce_cons maxMillis a _
      _ = a :: (debounce maxMillis (c :: ((debounce maxMillis (c :: rest)).tail ++ [e]))).tail := by
          rw [debounce_first same.symm (press.trans again.symm)]
      _ = a :: (debounce maxMillis (c :: rest ++ [e])).tail := by rw [← ih]; rfl
      _ = debounce maxMillis (a :: b :: c :: (rest ++ [e])) := by rw [debounce, if_pos chatter]; rfl
  | case2 a b c rest steady ih =>
    have steady : isChatter maxMillis a b c = false := Bool.not_eq_true _ ▸ steady
    have whole : debounce maxMillis (a :: b :: c :: rest ++ [e]) =
        a :: debounce maxMillis (b :: c :: rest ++ [e]) := debounce_steady steady (rest ++ [e])
    rw [whole, ← ih]
    -- The event after the first stays there when the rest is rid of chatter, and so does the next after a
    -- release.
    cases edge : b.edge with
    | press =>
      rw [debounce_cons maxMillis b]
      exact debounce_keep (by simp [isChatter, edge]) _
    | release =>
      rw [debounce_keep (by simp [isChatter, edge]), debounce_cons maxMillis c]
      exact debounce_steady steady _
  | case3 short => rfl

namespace Scan

theorem ofEvents_append (maxMillis : Int) (events : List Event) (e : Event) :
    ofEvents maxMillis (events ++ [e]) = (ofEvents maxMillis events).step maxMillis e := by
  simp only [ofEvents, List.foldl_append, List.foldl_cons, List.foldl_nil]

theorem step_live (maxMillis : Int) (s : Scan) (e : Event) :
    (s.step maxMillis e).live =
      if e.edge = .release ↔ e.button ∈ s.down then s.liveBefore maxMillis e ++ [e] else [] := by
  split
  · rename_i fits
    rw [step_of_fits fits]
  · rename_i misfit
    rw [step_of_misfit misfit]

theorem debounce_step {chatterMillis : Int} {s t : Scan} (down : s.down = t.down)
    (live : s.live = debounce chatterMillis t.live) (maxMillis : Int) (e : Event) :
    debounce chatterMillis (s.step maxMillis e).live =
      debounce chatterMillis (t.step maxMillis e).live := by
  rw [step_live, step_live, liveBefore, liveBefore, down]
  split
  · split
    · rfl
    · rw [live]
      exact debounce_append chatterMillis t.live e
  · rfl

theorem step_seen (maxMillis : Int) (s : Scan) (e : Event) : (s.step maxMillis e).seen = s.seen + 1 := by
  by_cases fits : e.edge = .release ↔ e.button ∈ s.down
  · rw [step_of_fits fits]
  · rw [step_of_misfit fits]

theorem foldl_seen (maxMillis : Int) (s : Scan) (events : List Event) :
    (events.foldl (step maxMillis) s).seen = s.seen + events.length := by
  induction events generalizing s with
  | nil => rfl
  | cons e rest ih => rw [List.foldl_cons, ih, step_seen, List.length_cons, Nat.add_assoc, Nat.add_comm 1]

theorem ofEvents_seen (maxMillis : Int) (events : List Event) :
    (ofEvents maxMillis events).seen = events.length :=
  (foldl_seen maxMillis {} events).trans (Nat.zero_add _)

end Scan

theorem trimLost_append (maxMillis : Int) (events : List Event) (e : Event) :
    trimLost maxMillis (events ++ [e]) = trimLost maxMillis events ++
      if e.edge = .release ↔ e.button ∈ (Scan.ofEvents maxMillis events).down then []
      else [⟨e.button, e.edge, events.length + 1⟩] := by
  rw [trimLost, Scan.ofEvents_append]
  split
  · rename_i fits
    rw [Scan.step_of_fits fits]
    exact (List.append_nil _).symm
  · rename_i misfit
    rw [Scan.step_of_misfit misfit, Scan.ofEvents_seen]
    rfl

theorem trimLost_places (maxMillis : Int) (events : List Event) :
    (trimLost maxMillis events).Pairwise (·.abandoned < ·.abandoned) ∧
      ∀ lost ∈ trimLost maxMillis events, ∃ before e after, events = before ++ e :: after ∧
        lost = ⟨e.button, e.edge, before.length + 1⟩ := by
  induction events using List.reverseRecOn with
  | nil => exact ⟨.nil, fun _ member => absurd member List.not_mem_nil⟩
  | append_singleton events e ih =>
    obtain ⟨ordered, shown⟩ := ih
    -- One more event can only show an edge at a place after all others.
    have earlier : ∀ lost ∈ trimLost maxMillis events, lost.abandoned < events.length + 1 := by
      intro lost member
      obtain ⟨before, other, after, rfl, rfl⟩ := shown lost member
      simp only [List.length_append, List.length_cons]
      omega
    have kept : ∀ lost ∈ trimLost maxMillis events, ∃ before other after,
        events ++ [e] = before ++ other :: after ∧
          lost = ⟨other.button, other.edge, before.length + 1⟩ := by
      intro lost member
      obtain ⟨before, other, after, rfl, same⟩ := shown lost member
      exact ⟨before, other, after ++ [e], by simp, same⟩
    rw [trimLost_append]
    split
    · rw [List.append_nil]
      exact ⟨ordered, kept⟩
    · constructor
      · refine List.pairwise_append.mpr ⟨ordered, List.pairwise_singleton _ _, ?_⟩
        intro lost member last final
        rw [List.mem_singleton.mp final]
        exact earlier lost member
      · intro lost member
        rcases List.mem_append.mp member with member | member
        · exact kept lost member
        · exact ⟨events, e, [], rfl, List.mem_singleton.mp member⟩

namespace Buffer

def Holds (b : Buffer) (events : List Event) : Prop :=
  b.events = debounce b.chatterMillis (trim b.maxMillis events)

theorem Holds.held {b : Buffer} {events : List Event} (holds : b.Holds events) :
    Event.held b.events = (Scan.ofEvents b.maxMillis events).down := by
  rw [holds, ← held_live]
  exact (debounce_held b.chatterMillis (follows_trim b.maxMillis events)).2

theorem Holds.live {b : Buffer} {events : List Event} (holds : b.Holds events) :
    Live b.maxMillis b.events := by
  rw [holds]
  exact live_debounce _ (live_trim b.maxMillis events)

theorem Holds.scan {b : Buffer} {events : List Event} (holds : b.Holds events) :
    Scan.ofEvents b.maxMillis b.events =
      ⟨b.events.length, b.events, (Scan.ofEvents b.maxMillis events).down, []⟩ := by
  rw [Scan.ofEvents_of_live holds.live, holds.held]

theorem Holds.append {b : Buffer} {events : List Event} (holds : b.Holds events) (e : Event) :
    (b.append e).Holds (events ++ [e]) := by
  have scanned : debounce b.chatterMillis (Scan.ofEvents b.maxMillis (b.events ++ [e])).live =
      debounce b.chatterMillis (Scan.ofEvents b.maxMillis (events ++ [e])).live := by
    rw [Scan.ofEvents_append, Scan.ofEvents_append, holds.scan]
    apply Scan.debounce_step
    · rfl
    · exact holds
  exact scanned

theorem Holds.appendLost {b : Buffer} {events : List Event} (holds : b.Holds events) (e : Event) :
    trimLost b.maxMillis (events ++ [e]) = trimLost b.maxMillis events ++
      (b.appendLost e).map fun lost => { lost with abandoned := events.length + 1 } := by
  have none : trimLost b.maxMillis b.events = [] := by rw [trimLost, holds.scan]
  rw [Buffer.appendLost, trimLost_append, trimLost_append, none, holds.scan, List.nil_append]
  split <;> rfl

inductive Operation where
  | append (e : Event)
  | extend (events : List Event)
  | clear
  deriving DecidableEq, Repr

def reports (b : Buffer) : List Event → List (List LostEdge)
  | [] => []
  | e :: rest => b.appendLost e :: (b.append e).reports rest

/-- A buffer, the events appended since it was last cleared, and what each append found lost. -/
structure Course where
  buffer : Buffer
  events : List Event := []
  reports : List (List LostEdge) := []
  deriving DecidableEq, Repr

namespace Course

def step (c : Course) : Operation → Course
  | .append e => ⟨c.buffer.append e, c.events ++ [e], c.reports ++ [c.buffer.appendLost e]⟩
  | .extend events =>
    ⟨c.buffer.extend events, c.events ++ events, c.reports ++ c.buffer.reports events⟩
  | .clear => ⟨c.buffer.clear, [], []⟩

def ofOperations (maxMillis chatterMillis : Int) (operations : List Operation) : Course :=
  operations.foldl step { buffer := ⟨maxMillis, chatterMillis, []⟩ }

/-- Everything found lost, with the places of the events that showed it. -/
def placed (c : Course) : List LostEdge :=
  (c.reports.zipIdx 1).flatMap fun x => x.1.map fun lost => { lost with abandoned := x.2 }

/-- An edge found lost, apart from how many events are abandoned with it. -/
def kind (lost : LostEdge) : Button × Edge :=
  (lost.button, lost.edge)

theorem kinds_placed (c : Course) : c.placed.map kind = c.reports.flatten.map kind := by
  unfold placed
  generalize 1 = place
  induction c.reports generalizing place with
  | nil => rfl
  | cons first rest ih =>
    rw [List.zipIdx_cons, List.flatMap_cons, List.map_append, ih, List.flatten_cons, List.map_append,
      List.map_map]
    rfl

structure Agrees (c : Course) (maxMillis chatterMillis : Int) : Prop where
  silence : c.buffer.maxMillis = maxMillis
  chatter : c.buffer.chatterMillis = chatterMillis
  holds : c.buffer.Holds c.events
  each : c.reports.length = c.events.length
  placed : c.placed = trimLost maxMillis c.events

section

variable {c : Course} {maxMillis chatterMillis : Int}

theorem Agrees.append (agrees : c.Agrees maxMillis chatterMillis) (e : Event) :
    (c.step (.append e)).Agrees maxMillis chatterMillis := by
  obtain ⟨rfl, rfl, holds, each, placed⟩ := agrees
  refine ⟨rfl, rfl, holds.append e, ?_, ?_⟩
  · simp only [step, List.length_append, List.length_singleton, each]
  · rw [step, Course.placed, List.zipIdx_append, List.flatMap_append, holds.appendLost e, ← placed]
    simp [Course.placed, each, Nat.add_comm 1]

theorem step_extend_cons (c : Course) (e : Event) (rest : List Event) :
    c.step (.extend (e :: rest)) = (c.step (.append e)).step (.extend rest) := by
  simp only [step, extend, Buffer.reports, List.foldl_cons, List.append_assoc, List.singleton_append]

theorem Agrees.extend (agrees : c.Agrees maxMillis chatterMillis) (events : List Event) :
    (c.step (.extend events)).Agrees maxMillis chatterMillis := by
  induction events generalizing c with
  | nil => simpa only [step, Buffer.extend, Buffer.reports, List.foldl_nil, List.append_nil] using agrees
  | cons e rest ih =>
    rw [step_extend_cons]
    exact ih (agrees.append e)

theorem Agrees.step (agrees : c.Agrees maxMillis chatterMillis) (operation : Operation) :
    (c.step operation).Agrees maxMillis chatterMillis := by
  cases operation with
  | append e => exact agrees.append e
  | extend events => exact agrees.extend events
  | clear => exact ⟨agrees.silence, agrees.chatter, rfl, rfl, rfl⟩

theorem Agrees.foldl (agrees : c.Agrees maxMillis chatterMillis) (operations : List Operation) :
    (operations.foldl Course.step c).Agrees maxMillis chatterMillis := by
  induction operations generalizing c with
  | nil => exact agrees
  | cons operation rest ih => exact ih (agrees.step operation)

end

theorem agrees_ofOperations (maxMillis chatterMillis : Int) (operations : List Operation) :
    (ofOperations maxMillis chatterMillis operations).Agrees maxMillis chatterMillis :=
  Agrees.foldl (c := { buffer := ⟨maxMillis, chatterMillis, []⟩ }) ⟨rfl, rfl, rfl, rfl, rfl⟩ operations

end Course

/-- After any operations a buffer has in it what is left when all events since it was last cleared are
    trimmed and then rid of chatter. The edges that these appends found lost, each with the place of the
    event that was appended, are those that one pass over all the events finds lost, in order: each at
    its own place, and with the button and the edge of the event there. -/
theorem events_eq_onePass (maxMillis chatterMillis : Int) (operations : List Operation) :
    let c := Course.ofOperations maxMillis chatterMillis operations
    let lost := trimLost maxMillis c.events
    c.buffer.events = debounce chatterMillis (trim maxMillis c.events) ∧
      c.reports.flatten.map Course.kind = lost.map Course.kind ∧
      c.reports.length = c.events.length ∧ c.placed = lost ∧
      lost.Pairwise (·.abandoned < ·.abandoned) ∧
      ∀ l ∈ lost, ∃ before e after, c.events = before ++ e :: after ∧
        l = ⟨e.button, e.edge, before.length + 1⟩ := by
  have agrees := Course.agrees_ofOperations maxMillis chatterMillis operations
  refine ⟨?_, ?_, agrees.each, agrees.placed, trimLost_places maxMillis _⟩
  on_goal 2 => rw [← Course.kinds_placed, agrees.placed]
  have holds := agrees.holds
  rwa [Holds, agrees.silence, agrees.chatter] at holds

/-- A key bounces and then seems to be pressed twice, while another one is down. -/
def lostTrack : List Operation :=
  [.append ⟨.volumeUp, .press, 0⟩, .extend [⟨.volumeUp, .release, 5⟩, ⟨.volumeUp, .press, 5⟩],
    .append ⟨.volumeDown, .press, 30⟩, .append ⟨.volumeUp, .press, 40⟩,
    .extend [⟨.volumeDown, .release, 7⟩, ⟨.volumeDown, .press, 7⟩]]

/-- The second press makes three events past for the buffer, which is rid of the bounce by then; in one
    pass it is the fifth. The release after it is lost as well, as nothing is known to be down. -/
theorem events_eq_onePass_lostTrack :
    let c := Course.ofOperations 350 10 lostTrack
    c.buffer.events = [⟨.volumeDown, .press, 7⟩] ∧
      c.reports.flatten = [⟨.volumeUp, .press, 3⟩, ⟨.volumeDown, .release, 1⟩] ∧
      trimLost 350 c.events = [⟨.volumeUp, .press, 5⟩, ⟨.volumeDown, .release, 6⟩] ∧
      c.buffer.events = debounce 10 (trim 350 c.events) ∧ c.placed = trimLost 350 c.events := by
  obtain ⟨events, _, _, placed, _⟩ := events_eq_onePass 350 10 lostTrack
  exact ⟨by decide, by decide, by decide, events, placed⟩

end Buffer

end Gesture
