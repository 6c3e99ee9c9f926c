import Gesture.Proofs.Repetition

namespace Gesture

open Event

namespace Buffer

theorem append_misfit {b : Buffer} {e : Event} (follows : Follows [] b.events)
    (misfit : ¬(e.edge = .release ↔ e.button ∈ held b.events)) : (b.append e).events = [] := by
  have down : (Scan.ofEvents b.maxMillis b.events).down = held b.events :=
    (Scan.foldl_of_follows (s := {}) follows b.maxMillis).2
  have trimmed : trim b.maxMillis (b.events ++ [e]) = [] := by
    rw [← down] at misfit
    rw [trim, Scan.ofEvents, List.foldl_append]
    exact congrArg Scan.live (Scan.step_of_misfit misfit b.maxMillis)
  exact congrArg (debounce b.chatterMillis) trimmed

theorem append_follows {b : Buffer} (follows : Follows [] b.events) (e : Event) :
    Follows [] (b.append e).events ∧
      ∀ button ∈ held (b.append e).events, button ∈ held b.events ∨ button = e.button := by
  by_cases fits : e.edge = .release ↔ e.button ∈ held b.events
  · obtain ⟨_, kept, down⟩ := append_held (follows_append.mpr ⟨follows, fits, trivial⟩)
    refine ⟨kept, ?_⟩
    intro button member
    rw [down] at member
    cases edge : e.edge with
    | press => simpa [edge, Edge.apply] using member
    | release =>
      rw [edge] at member
      exact .inl (List.mem_of_mem_erase member)
  · rw [append_misfit follows fits]
    exact ⟨trivial, fun _ member => absurd member List.not_mem_nil⟩

theorem extend_follows {b : Buffer} (follows : Follows [] b.events) (events : List Event) :
    Follows [] (b.extend events).events ∧
      ∀ button ∈ held (b.extend events).events,
        button ∈ held b.events ∨ ∃ e ∈ events, button = e.button := by
  induction events generalizing b with
  | nil => exact ⟨follows, fun _ member => .inl member⟩
  | cons e rest ih =>
    obtain ⟨kept, first⟩ := append_follows follows e
    obtain ⟨kept', later⟩ := ih kept
    refine ⟨kept', ?_⟩
    intro button member
    rcases later button member with before | ⟨other, among, same⟩
    · rcases first button before with before | same
      · exact .inl before
      · exact .inr ⟨e, List.mem_cons_self, same⟩
    · exact .inr ⟨other, List.mem_cons_of_mem e among, same⟩

end Buffer

namespace Recognizer

theorem dropOwed_sublist (owed : List Token) (events : List Event) :
    (dropOwed owed events).1.Sublist events := by
  induction events generalizing owed with
  | nil => exact .refl []
  | cons e rest ih =>
    rw [dropOwed_cons]
    split
    · exact (ih _).cons e
    · exact (ih _).cons_cons e

theorem free_of_kept {owed : List Token} {events : List Event} :
    ∀ e ∈ (dropOwed owed events).1, e.button.token .release ∉ (dropOwed owed events).2 := by
  intro e kept owes
  exact (mem_owed_after.mp owes).2 e ((dropOwed_sublist owed events).subset kept) rfl

/-- What is in a recognizer's keeping: its phase, its buffer, what is owed to it, and the events of the
    reports that are still to come. -/
structure Custody where
  phase : Phase := .idle
  buffer : Buffer
  owed : List Token := []
  coming : List (List Event)
  deriving DecidableEq, Repr

namespace Custody

def opened (buffer : Buffer) (raws : List Raw) : Custody where
  buffer := buffer
  coming := Decoder.batches {} raws

/-- What is in its keeping after one more entry. The buffer has been cleared when the recognizer says
    that it has fired, and what it held is owed. -/
def enter (c : Custody) (e : Entry) : Custody :=
  match e.step with
  | .received _ =>
    match c.coming with
    | [] => c
    | events :: coming => { c with coming := coming, owed := (dropOwed c.owed events).2 }
  | .recorded _ buffer => { c with buffer := buffer }
  | .phase .fired =>
    { c with
      phase := .fired
      owed := oweMore c.owed c.buffer.heldReleases
      buffer := c.buffer.clear }
  | .phase p => { c with phase := p }
  | _ => c

def after (c : Custody) (entries : List Entry) : Custody :=
  entries.foldl enter c

theorem after_append (c : Custody) (left right : List Entry) :
    c.after (left ++ right) = (c.after left).after right :=
  List.foldl_append

structure Fits (c : Custody) (s : State) : Prop where
  phase : c.phase = s.phase
  buffer : c.buffer = s.buffer
  owed : c.owed = s.owed

/-- No button is held and owed at once, and the buffer is empty once it has fired and while it is
    repeating. The events in the buffer fit together. -/
structure Sound (c : Custody) : Prop where
  apart : List.Disjoint c.buffer.heldReleases c.owed
  empty : c.phase = .fired ∨ c.phase = .repeating → c.buffer.events = []
  follows : Follows [] c.buffer.events

def Throughout (p : Custody → Prop) (c : Custody) : List Entry → Prop
  | [] => p c
  | e :: rest => p c ∧ Throughout p (c.enter e) rest

section

variable {p : Custody → Prop} {c : Custody}

theorem Throughout.append {left right : List Entry} (before : Throughout p c left)
    (later : Throughout p (c.after left) right) : Throughout p c (left ++ right) := by
  induction left generalizing c with
  | nil => exact later
  | cons e rest ih => exact ⟨before.1, ih before.2 later⟩

theorem Throughout.of_prefix {before entries : List Entry} (throughout : Throughout p c entries)
    (first : before <+: entries) : p (c.after before) := by
  obtain ⟨rest, rfl⟩ := first
  induction before generalizing c with
  | nil =>
    cases rest with
    | nil => exact throughout
    | cons e rest => exact throughout.1
  | cons e more ih => exact ih throughout.2

end

def Leads (c : Custody) (entries : List Entry) (d : Custody) : Prop :=
  Throughout Sound c entries ∧ c.after entries = d

section

variable {c d : Custody}

theorem Leads.nil (sound : c.Sound) : c.Leads [] c := ⟨sound, rfl⟩

theorem Leads.cons {e : Entry} {rest : List Entry} (sound : c.Sound) (leads : (c.enter e).Leads rest d) :
    c.Leads (e :: rest) d :=
  ⟨⟨sound, leads.1⟩, leads.2⟩

theorem Leads.append {left right : List Entry} {middle : Custody} (before : c.Leads left middle)
    (later : middle.Leads right d) : c.Leads (left ++ right) d := by
  obtain ⟨sound, rfl⟩ := before
  exact ⟨sound.append later.1, (after_append c left right).trans later.2⟩

theorem Leads.sound {entries : List Entry} (leads : c.Leads entries d) : d.Sound := by
  obtain ⟨sound, rfl⟩ := leads
  exact sound.of_prefix (List.prefix_refl entries)

theorem Leads.of_idle {entries : List Entry} (sound : c.Sound)
    (idle : ∀ e ∈ entries, ∀ c : Custody, c.enter e = c) : c.Leads entries c := by
  induction entries with
  | nil => exact .nil sound
  | cons e rest ih =>
    obtain ⟨first, later⟩ := List.forall_mem_cons.mp idle
    refine .cons sound ?_
    rw [first]
    exact ih later

end

/-- A part of a run from some custody on: it is sound all along, and what it tells is so. If it does not
    fail, the reports that are still to come are `raws`. -/
def Kept (c : Custody) (o : Outcome) (raws : List Raw) : Prop :=
  ∃ d, c.Leads o.entries d ∧ d.Fits o.state ∧
    (o.failure = none → d.coming = o.state.decoder.batches raws)

end Custody

open Custody

def phaseAfter : Except Regex.Error (Option Action) → Phase
  | .error _ => .evaluating
  | .ok none => .idle
  | .ok (some _) => .armed

theorem arm_keeps (time : Rat) (a : Action) (s : State) :
    let left := (arm time a s).state
    left.phase = .armed ∧ left.buffer = s.buffer ∧ left.owed = s.owed ∧ left.decoder = s.decoder := by
  by_cases long : (Binary64.ofQuotient? s.buffer.maxMillis 1000).isNone = true
  · simp only [arm, if_pos long, and_self]
  · by_cases negative : s.buffer.maxMillis < 0
    · simp only [arm, if_neg long, if_pos negative, and_self]
    · simp only [arm, if_neg long, if_neg negative, and_self]

theorem judge_keeps (r : Recognizer) (time : Rat) (s : State) :
    let search := r.candidate time s.buffer.tokens { received := s.received } r.table
    let left := (r.judge time s).state
    left.phase = phaseAfter search.1 ∧ left.buffer = s.buffer ∧ left.owed = s.owed ∧
      left.decoder = s.decoder := by
  dsimp only
  cases search : r.candidate time s.buffer.tokens { received := s.received } r.table with
  | mk result snapshot =>
    rcases result with e | _ | a
    · simp only [judge, search, phaseAfter, and_self]
    · simp only [judge, search, phaseAfter, and_self]
    · have found : ∃ entries, r.judge time s = (⟨{ s with phase := .evaluating, wait := .input },
          entries, none⟩ : Outcome).andThen (arm time a) := by
        simp only [judge, search]
        exact ⟨_, rfl⟩
      obtain ⟨entries, same⟩ := found
      rw [same, Outcome.state_andThen]
      exact arm_keeps time a _

theorem evaluate_keeps (r : Recognizer) (time : Rat) (events : List Event) (s : State) :
    let buffer := s.buffer.extend events
    let search := r.candidate time buffer.tokens { received := s.received } r.table
    let left := (r.evaluate time events s).state
    left.phase = phaseAfter search.1 ∧ left.buffer = buffer ∧ left.owed = s.owed ∧
      left.decoder = s.decoder := by
  rw [evaluate_eq_judge, Outcome.state_andThen]
  exact judge_keeps r time { s with buffer := s.buffer.extend events }

theorem fire_keeps (time : Rat) (a : Action) (s : State) :
    let left := (fire time a s).state
    left.phase = (if holds a s then .repeating else .idle) ∧ left.buffer = s.buffer.clear ∧
      left.owed = oweMore s.owed s.buffer.heldReleases ∧ left.decoder = s.decoder := by
  cases repeats : a.interval? with
  | none => simp only [fire, holds, repeats, Option.isSome_none, Bool.false_and, Bool.false_eq_true,
      if_false, and_self]
  | some interval =>
    cases held : matchesEnd a.pattern s.buffer.tokens with
    | false => simp only [fire, holds, repeats, held, Bool.and_false, Bool.false_eq_true, if_false, and_self]
    | true =>
      by_cases long : (Binary64.ofQuotient? interval 1000).isNone = true
      · simp only [fire, holds, repeats, held, if_pos long, Option.isSome_some, Bool.and_self, if_true, and_self]
      · simp only [fire, holds, repeats, held, if_neg long, Option.isSome_some, Bool.and_self, if_true, and_self]

section

variable {c : Custody} {s : State} {r : Recognizer} {raws : List Raw} {time : Rat}

theorem Custody.Sound.phase (sound : c.Sound) {p : Phase} (other : p ≠ .fired ∧ p ≠ .repeating) :
    Sound { c with phase := p } where
  apart := sound.apart
  empty occupied := (occupied.elim other.1 other.2).elim
  follows := sound.follows

theorem leads_break (sound : c.Sound) (fits : c.Fits s) (settled : s.Settled) (time : Rat) :
    c.Leads (entriesAt time (breakSteps s.wait)) { c with phase := .idle } := by
  have idle : Sound { c with phase := .idle } := sound.phase ⟨by decide, by decide⟩
  cases wait : s.wait with
  | input =>
    have here : c.phase = .idle := by rw [fits.phase, settled.phase, wait]; rfl
    rw [← here]
    exact .nil sound
  | armed a due => exact .cons sound (.cons sound (.nil idle))
  | repeating a last => exact .cons sound (.cons sound (.nil idle))

theorem leads_lost (sound : c.Sound) (time : Rat) (lost : List LostEdge) :
    c.Leads (entriesAt time (lost.map .lost)) c := by
  apply Leads.of_idle sound
  intro e member c
  obtain ⟨l, _, shown⟩ := List.mem_map.mp (mem_entriesAt.mp member).2
  simp only [enter, ← shown]

theorem leads_notes (sound : c.Sound) (time : Rat) (notes : List Note) :
    c.Leads (entriesAt time (notes.map .noted)) c := by
  apply Leads.of_idle sound
  intro e member c
  obtain ⟨note, _, shown⟩ := List.mem_map.mp (mem_entriesAt.mp member).2
  simp only [enter, ← shown]

theorem leads_verdict (sound : c.Sound) (evaluating : c.phase = .evaluating) (time : Rat)
    (result : Except Regex.Error (Option Action)) :
    c.Leads (entriesAt time (verdict result)) { c with phase := phaseAfter result } := by
  rcases result with e | _ | a
  · have same : { c with phase := .evaluating } = c := by rw [← evaluating]
    rw [phaseAfter, same]
    exact .nil sound
  · exact .cons sound (.nil (sound.phase ⟨by decide, by decide⟩))
  · have armed : Sound { c with phase := .armed } := sound.phase ⟨by decide, by decide⟩
    exact .cons sound (.cons armed (.nil armed))

theorem Custody.Sound.record (sound : c.Sound) (idle : c.phase = .idle) {events : List Event}
    (free : ∀ e ∈ events, e.button.token .release ∉ c.owed) :
    Sound { c with buffer := c.buffer.extend events } where
  apart := by
    intro t held owes
    obtain ⟨button, member, rfl⟩ := List.mem_map.mp held
    rcases (Buffer.extend_follows sound.follows events).2 button member with before | ⟨e, among, rfl⟩
    · exact sound.apart (List.mem_map_of_mem before) owes
    · exact free e among owes
  empty occupied := by
    rw [idle] at occupied
    rcases occupied with fired | repeating
    · cases fired
    · cases repeating
  follows := (Buffer.extend_follows sound.follows events).1

theorem kept_evaluate (sound : c.Sound) (fits : c.Fits s) (coming : c.coming = s.decoder.batches raws)
    (idle : s.phase = .idle) {events : List Event}
    (free : ∀ e ∈ events, e.button.token .release ∉ s.owed) :
    c.Kept (r.evaluate time events s) raws := by
  obtain ⟨phase, buffer, owed⟩ := fits
  obtain ⟨phase', buffer', owed', decoder'⟩ := evaluate_keeps r time events s
  rw [← owed] at free
  have recorded := sound.record (phase.trans idle) free
  rw [buffer] at recorded
  have evaluating : Sound { c with buffer := s.buffer.extend events, phase := .evaluating } :=
    recorded.phase ⟨by decide, by decide⟩
  let search := r.candidate time (s.buffer.extend events).tokens { received := s.received } r.table
  have last := (leads_notes evaluating time search.2.notes).append
    (leads_verdict evaluating rfl time search.1)
  rw [← entriesAt_append] at last
  rw [Kept, evaluate_entries, evaluationSteps, entriesAt_append, decoder']
  refine ⟨_, (leads_lost sound time _).append (.cons sound (.cons recorded last)), ?_, fun _ => coming⟩
  exact ⟨phase'.symm, buffer'.symm, owed.trans owed'.symm⟩

theorem kept_fire (sound : c.Sound) (fits : c.Fits s) (coming : c.coming = s.decoder.batches raws)
    (time : Rat) (a : Action) : c.Kept (fire time a s) raws := by
  obtain ⟨phase, buffer, owed⟩ := fits
  obtain ⟨phase', buffer', owed', decoder'⟩ := fire_keeps time a s
  let left (p : Phase) : Custody :=
    { c with phase := p, owed := oweMore c.owed c.buffer.heldReleases, buffer := c.buffer.clear }
  have emptied : ∀ p, (left p).Sound := fun p =>
    ⟨fun _ held => absurd held List.not_mem_nil, fun _ => rfl, trivial⟩
  have fits : ∀ p, (fire time a s).state.phase = p → (left p).Fits (fire time a s).state := by
    intro p same
    refine ⟨same.symm, ?_, ?_⟩
    · rw [buffer', ← buffer]
    · rw [owed', ← owed, ← buffer]
  have fired : (left .fired).Leads (entriesAt time [.firing a, .executed a]) (left .fired) :=
    .cons (emptied _) (.cons (emptied _) (.nil (emptied _)))
  rw [Kept, fire_entries, decoder']
  cases repeats : holds a s with
  | true =>
    rw [repeats, if_pos rfl] at phase'
    rw [firingEnd_of_holds repeats]
    exact ⟨_, .cons sound (fired.append (.cons (emptied _) (.nil (emptied _)))), fits .repeating phase',
      fun _ => coming⟩
  | false =>
    rw [repeats, if_neg Bool.false_ne_true] at phase'
    rcases firingEnd_of_not_holds repeats with shown | shown
    · rw [shown]
      exact ⟨_, .cons sound (fired.append (.cons (emptied _) (.nil (emptied _)))), fits .idle phase',
        fun _ => coming⟩
    · rw [shown]
      exact ⟨_, .cons sound (fired.append (.cons (emptied _) (.cons (emptied _) (.nil (emptied _))))),
        fits .idle phase', fun _ => coming⟩

theorem Custody.Sound.settle (sound : c.Sound) (events : List Event) (coming : List (List Event)) :
    Sound { c with coming := coming, owed := (dropOwed c.owed events).2 } where
  apart _ held owes := sound.apart held (mem_owed_after.mp owes).1
  empty := sound.empty
  follows := sound.follows

theorem kept_accept (sound : c.Sound) (fits : c.Fits s) (coming : c.coming = s.decoder.batches raws)
    (settled : s.Settled) {batch : List Event}
    (free : ∀ e ∈ batch, e.button.token .release ∉ s.owed) : c.Kept (r.accept time batch s) raws := by
  by_cases arrived : batch = []
  · subst arrived
    rw [accept_nil settled]
    split
    · exact ⟨_, leads_break sound fits settled time, ⟨rfl, fits.buffer, fits.owed⟩, fun _ => coming⟩
    · exact ⟨_, .nil sound, fits, fun _ => coming⟩
  · rw [accept_batch settled arrived, Kept, Outcome.andThen_mk]
    have ended := leads_break sound fits settled time
    have kept : Kept { c with phase := .idle } (r.evaluate time batch s.idle) raws :=
      kept_evaluate (s := s.idle) ended.sound ⟨rfl, fits.buffer, fits.owed⟩ coming rfl free
    obtain ⟨d, leads, rest⟩ := kept
    exact ⟨d, ended.append leads, rest⟩

theorem kept_receive (sound : c.Sound) (fits : c.Fits s) {raw : Raw}
    (coming : c.coming = s.decoder.batches (raw :: raws)) (settled : s.Settled) :
    c.Kept (r.receive time raw s) raws := by
  cases decoded : s.decoder.decode raw with
  | error e =>
    simp only [Decoder.batches, decoded] at coming
    have same : c.enter ⟨time, .received s.received⟩ = c := by simp only [enter, coming]
    rw [receive_undecodable decoded]
    refine ⟨c, .cons sound ?_, ⟨fits.phase, fits.buffer, fits.owed⟩, fun ok => by cases ok⟩
    rw [same]
    exact .nil sound
  | ok result =>
    obtain ⟨events, decoder⟩ := result
    simp only [Decoder.batches, decoded] at coming
    let taken : Custody := { c with coming := decoder.batches raws, owed := (dropOwed c.owed events).2 }
    have entered : c.enter ⟨time, .received s.received⟩ = taken := by simp only [enter, coming, taken]
    have settle : taken.Sound := sound.settle events _
    have owed : taken.owed = (dropOwed s.owed events).2 := by rw [← fits.owed]
    have kept : taken.Kept (r.accept time (dropOwed s.owed events).1 (s.taking events decoder)) raws :=
      kept_accept (s := s.taking events decoder) settle ⟨fits.phase, fits.buffer, owed⟩ rfl
        (settled.taking events decoder) free_of_kept
    obtain ⟨d, leads, rest⟩ := kept
    rw [receive_decoded decoded, Kept, Outcome.andThen_mk]
    refine ⟨d, .cons sound ?_, rest⟩
    rw [entered]
    exact leads

theorem kept_elapse (sound : c.Sound) (fits : c.Fits s) (coming : c.coming = s.decoder.batches raws)
    (time : Rat) : c.Kept (elapse time s) raws := by
  cases wait : s.wait with
  | input =>
    simp only [elapse, wait]
    exact ⟨c, .nil sound, fits, fun _ => coming⟩
  | armed a due =>
    simp only [elapse, wait]
    exact kept_fire sound fits coming time a
  | repeating a last =>
    simp only [elapse, wait]
    exact ⟨c, .cons sound (.nil sound), ⟨fits.phase, fits.buffer, fits.owed⟩, fun _ => coming⟩

theorem kept_play {schedule : Schedule} (sound : c.Sound) (fits : c.Fits s)
    (coming : c.coming = s.decoder.batches schedule.reports) (settled : s.Settled) :
    c.Kept (r.play schedule s) [] := by
  -- What carries the induction: the custody is sound, and what is told in it is so.
  induction schedule generalizing c s with
  | nil => exact ⟨c, .nil sound, fits, fun _ => coming⟩
  | cons x rest ih =>
    obtain ⟨time, stimulus⟩ := x
    have first : c.Kept (r.react time stimulus s) (Schedule.reports rest) := by
      cases stimulus with
      | report raw => exact kept_receive sound fits coming settled
      | timeout => exact kept_elapse sound fits coming time
    obtain ⟨d, leads, fits', coming'⟩ := first
    rw [play]
    cases failed : (r.react time stimulus s).failure with
    | some f =>
      rw [Outcome.andThen_of_failed failed]
      exact ⟨d, leads, fits', fun ok => by rw [failed] at ok; cases ok⟩
    | none =>
      obtain ⟨e, leads', onward⟩ := ih leads.sound fits' (coming' failed) (settled.react failed)
      rw [Outcome.andThen_of_ok failed]
      exact ⟨e, leads.append leads', onward⟩

end

/-- While an action is repeated, all releases that end its repetition are owed. A report that leaves
    no events to record ends it just if one of these releases is among its events, and otherwise changes
    nothing but what is owed and the count of reports. -/
def State.StopsByRelease (s : State) : Prop :=
  ∀ a last, s.wait = .repeating a last → (∀ t ∈ a.holdReleases, t ∈ s.owed) ∧
    ∀ (r : Recognizer) (time : Rat) (raw : Raw) (events : List Event) (decoder : Decoder),
      s.decoder.decode raw = .ok (events, decoder) → (dropOwed s.owed events).1 = [] →
      let taken := s.taking events decoder
      ((∃ e ∈ events, e.token ∈ a.holdReleases) → r.receive time raw s =
        ⟨taken.idle, entriesAt time [.received s.received, .stopped a, .phase .idle], none⟩) ∧
      (¬(∃ e ∈ events, e.token ∈ a.holdReleases) → r.receive time raw s =
        ⟨taken, entriesAt time [.received s.received], none⟩)

def State.OwesHold (s : State) : Prop :=
  ∀ a last, s.wait = .repeating a last → ∀ t ∈ a.holdReleases, t ∈ s.owed

section

variable {s : State} {r : Recognizer}

theorem State.OwesHold.stopsByRelease (owes : s.OwesHold) (settled : s.Settled) : s.StopsByRelease := by
  intro a last wait
  refine ⟨owes a last wait, ?_⟩
  intro r time raw events decoder decoded quiet
  have ended : (s.taking events decoder).holdEnded = true ↔ ∃ e ∈ events, e.token ∈ a.holdReleases := by
    simp only [State.holdEnded, State.taking, wait]
    exact isReleased_iff (owes a last wait) quiet
  have received : r.receive time raw s =
      if (s.taking events decoder).holdEnded then
        ⟨(s.taking events decoder).idle, entriesAt time (.received s.received :: breakSteps s.wait), none⟩
      else ⟨s.taking events decoder, entriesAt time [.received s.received], none⟩ :=
    receive_quiet settled decoded quiet
  rw [wait] at received
  dsimp only
  constructor
  · intro release
    rw [received, if_pos (ended.mpr release)]
    rfl
  · intro other
    rw [received, if_neg (fun released => other (ended.mp released))]

theorem owesHold_of_idle (wait : ∀ a last, s.wait ≠ .repeating a last) : s.OwesHold :=
  fun a last repeating => absurd repeating (wait a last)

theorem after_ne_repeating (time : Rat) (maxMillis : Int) (found : Option Action) (a : Action)
    (last : Rat) : Wait.after time maxMillis found ≠ .repeating a last := by
  intro same
  cases found <;> cases same

theorem owesHold_receive (settled : s.Settled) {time : Rat} {raw : Raw}
    (ok : (r.receive time raw s).failure = none) : (r.receive time raw s).state.OwesHold := by
  obtain ⟨events, decoder, decoded⟩ := decoded_of_ok ok
  by_cases quiet : (dropOwed s.owed events).1 = []
  · rw [receive_quiet settled decoded quiet]
    cases ended : (s.taking events decoder).holdEnded with
    | true => exact owesHold_of_idle fun a last wait => by cases wait
    | false =>
      intro a last wait
      have wait : s.wait = .repeating a last := wait
      simp only [State.holdEnded, State.taking, wait] at ended
      simpa [isReleased, State.taking] using ended
  · rw [receive_batch settled decoded quiet, Outcome.andThen_mk] at ok ⊢
    dsimp only at ok ⊢
    rw [evaluate_state ok]
    exact owesHold_of_idle (after_ne_repeating time _ _)

theorem owesHold_fire {time : Rat} {a : Action} (ok : (fire time a s).failure = none) :
    (fire time a s).state.OwesHold := by
  intro b last wait t member
  rw [fire_wait ok] at wait
  split at wait
  · rename_i repeats
    cases wait
    rw [fire_state ok]
    exact mem_oweMore.mpr (.inr (holdReleases_held (Bool.and_eq_true_iff.mp repeats).2 t member))
  · cases wait

theorem State.OwesHold.react (owes : s.OwesHold) (settled : s.Settled) {time : Rat} {stimulus : Stimulus}
    (ok : (r.react time stimulus s).failure = none) : (r.react time stimulus s).state.OwesHold := by
  cases stimulus with
  | report raw => exact owesHold_receive settled ok
  | timeout =>
    cases wait : s.wait with
    | input =>
      simp only [Recognizer.react, elapse, wait]
      exact owes
    | armed a due =>
      simp only [Recognizer.react, elapse, wait] at ok ⊢
      exact owesHold_fire ok
    | repeating a last =>
      simp only [Recognizer.react, elapse, wait]
      intro b later same
      cases same
      exact owes a last wait

theorem State.OwesHold.play {schedule : Schedule} (owes : s.OwesHold) (settled : s.Settled)
    (ok : (r.play schedule s).failure = none) :
    (r.play schedule s).state.OwesHold ∧ (r.play schedule s).state.Settled := by
  induction schedule generalizing s with
  | nil => exact ⟨owes, settled⟩
  | cons x rest ih =>
    obtain ⟨time, stimulus⟩ := x
    simp only [Recognizer.play] at ok ⊢
    obtain ⟨first, later⟩ := Outcome.failure_andThen_eq_none.mp ok
    rw [Outcome.andThen_of_ok first]
    exact ih (owes.react settled first) (settled.react first) later

end

theorem Custody.Kept.run {c : Custody} {r : Recognizer} {buffer : Buffer} {arrivals : List Arrival}
    {endTime : Rat} {raws : List Raw} (kept : c.Kept (r.standing buffer arrivals endTime) raws) :
    ∃ d, c.Leads (r.run buffer arrivals endTime).entries d ∧ d.Fits (r.run buffer arrivals endTime).state := by
  obtain ⟨d, leads, fits, _⟩ := kept
  rw [run_eq_closing]
  refine ⟨d, leads.append (.of_idle leads.sound ?_), fits⟩
  intro e member c
  rcases mem_closing member with shown | shown | shown
  all_goals simp only [enter, shown]

theorem sound_opened (maxMillis chatterMillis : Int) (raws : List Raw) :
    (opened ⟨maxMillis, chatterMillis, []⟩ raws).Sound where
  apart := fun _ held => absurd held List.not_mem_nil
  empty := fun _ => rfl
  follows := trivial

/-- What a run shows tells what is in the recognizer's keeping, at every moment: no button is held by
    the buffer and owed at once, and when it has fired, and while it is repeating, the buffer is empty.
    Whenever it waits to repeat an action, the releases that end the repetition are owed, and only the
    arrival of one of them, or of events to record, ends it. This is so for all schedules, and for timed
    runs at all times, whatever is reported. -/
theorem custody_sound (r : Recognizer) (maxMillis chatterMillis : Int) :
    let buffer : Buffer := ⟨maxMillis, chatterMillis, []⟩
    (∀ schedule : Schedule,
      let o := r.play schedule { buffer := buffer }
      let opened := Custody.opened buffer schedule.reports
      (∀ before, before <+: o.entries → (opened.after before).Sound) ∧
        (opened.after o.entries).Fits o.state ∧ (o.failure = none → o.state.StopsByRelease)) ∧
    ∀ (arrivals : List Arrival) (time : Rat),
      let waiting := r.standing buffer arrivals time
      let ended := r.run buffer arrivals time
      let opened := Custody.opened buffer (arrivals.map (·.raw))
      (∀ before, before <+: ended.entries → (opened.after before).Sound) ∧
        (opened.after ended.entries).Fits ended.state ∧
        (waiting.failure = none → waiting.state.StopsByRelease) := by
  have kept : ∀ schedule : Schedule, (opened ⟨maxMillis, chatterMillis, []⟩ schedule.reports).Kept
      (r.play schedule { buffer := ⟨maxMillis, chatterMillis, []⟩ }) [] := fun schedule =>
    kept_play (sound_opened maxMillis chatterMillis _) ⟨rfl, rfl, rfl⟩ rfl (settled_start _)
  have stops : ∀ schedule : Schedule,
      (r.play schedule { buffer := ⟨maxMillis, chatterMillis, []⟩ }).failure = none →
      (r.play schedule { buffer := ⟨maxMillis, chatterMillis, []⟩ }).state.StopsByRelease := by
    intro schedule ok
    obtain ⟨owes, settled⟩ := State.OwesHold.play (s := { buffer := ⟨maxMillis, chatterMillis, []⟩ })
      (owesHold_of_idle fun _ _ wait => by cases wait) (settled_start _) ok
    exact owes.stopsByRelease settled
  constructor
  · intro schedule
    obtain ⟨d, ⟨sound, rfl⟩, fits, _⟩ := kept schedule
    exact ⟨fun before => sound.of_prefix, fits, stops schedule⟩
  · intro arrivals time
    -- A timed run stands as one of the schedules does.
    obtain ⟨schedule, reported, same⟩ := standing_eq_play r ⟨maxMillis, chatterMillis, []⟩ arrivals time
    have played := kept schedule
    rw [← same, reported] at played
    obtain ⟨d, ⟨sound, rfl⟩, fits⟩ := played.run
    refine ⟨fun before => sound.of_prefix, fits, ?_⟩
    rw [same]
    exact stops schedule

/-- While the first key repeats its action, its release is owed; when that arrives, it ends the
    repetition. -/
theorem custody_sound_lateRelease :
    let reports := lateRelease.take 1
    let waiting := volumeKeys.standing {} reports 400
    let known := (Custody.opened {} (reports.map (·.raw))).after (volumeKeys.run {} reports 400).entries
    let louder := volumeKeys.table[1]
    let letGo : Raw := (levelAt 420 .volumeUp 0).raw
    waiting.failure = none ∧ waiting.state.wait = .repeating louder 350 ∧
      louder.holdReleases = [Button.volumeUp.token .release] ∧ known.phase = .repeating ∧
      known.owed = [Button.volumeUp.token .release] ∧ known.Sound ∧
      (∀ t ∈ louder.holdReleases, t ∈ waiting.state.owed) ∧
      (volumeKeys.receive 420 letGo waiting.state).entries =
        entriesAt 420 [.received 1, .stopped louder, .phase .idle] := by
  have ok : (volumeKeys.standing {} (lateRelease.take 1) 400).failure = none := by decide +kernel
  have wait : (volumeKeys.standing {} (lateRelease.take 1) 400).state.wait =
      .repeating volumeKeys.table[1] 350 := by decide +kernel
  have decoded : (volumeKeys.standing {} (lateRelease.take 1) 400).state.decoder.decode
      (levelAt 420 .volumeUp 0).raw =
        .ok ([⟨.volumeUp, .release, 420⟩], ⟨some (levelAt 420 .volumeUp 0).raw.timestamp⟩) := by
    decide +kernel
  obtain ⟨sound, _, stops⟩ := (custody_sound volumeKeys 350 10).2 (lateRelease.take 1) 400
  obtain ⟨owes, ending⟩ := stops ok _ _ wait
  have stopped := (ending volumeKeys 420 _ _ _ decoded (by decide +kernel)).1 (by decide +kernel)
  refine ⟨ok, wait, by decide +kernel, by decide +kernel, by decide +kernel,
    sound _ (List.prefix_refl _), owes, ?_⟩
  rw [stopped]
  have count : (volumeKeys.standing {} (lateRelease.take 1) 400).state.received = 1 := by decide +kernel
  dsimp only
  rw [count]

end Recognizer

end Gesture
