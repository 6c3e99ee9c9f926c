import Gesture.Proofs.OnePass
import Gesture.Proofs.Unnamed

namespace Gesture

open Event

/-- Events, when one does not look at how long the silence before the first was. -/
def Event.unstamped : List Event → List Event
  | [] => []
  | e :: rest => { e with elapsed := 0 } :: rest

def Buffer.unstamped (b : Buffer) : Buffer :=
  { b with events := Event.unstamped b.events }

section

variable {left right : List Event}

theorem unstamped_cons {a b : Event} {rest rest' : List Event} :
    Event.unstamped (a :: rest) = Event.unstamped (b :: rest') ↔
      a.button = b.button ∧ a.edge = b.edge ∧ rest = rest' := by
  simp only [Event.unstamped, List.cons.injEq, Event.mk.injEq, and_true, and_assoc]

theorem unstamped_cases (same : Event.unstamped left = Event.unstamped right) :
    left = [] ∧ right = [] ∨
      ∃ a b rest, left = a :: rest ∧ right = b :: rest ∧ a.button = b.button ∧ a.edge = b.edge := by
  cases left with
  | nil =>
    cases right with
    | nil => exact .inl ⟨rfl, rfl⟩
    | cons b rest => cases same
  | cons a rest =>
    cases right with
    | nil => cases same
    | cons b rest' =>
      obtain ⟨button, edge, rfl⟩ := unstamped_cons.mp same
      exact .inr ⟨a, b, rest, rfl, rfl, button, edge⟩

theorem unstamped_append (same : Event.unstamped left = Event.unstamped right) (more : List Event) :
    Event.unstamped (left ++ more) = Event.unstamped (right ++ more) := by
  rcases unstamped_cases same with ⟨rfl, rfl⟩ | ⟨a, b, rest, rfl, rfl, button, edge⟩
  · rfl
  · exact unstamped_cons.mpr ⟨button, edge, rfl⟩

theorem unstamped_debounce (same : Event.unstamped left = Event.unstamped right) (maxMillis : Int) :
    Event.unstamped (debounce maxMillis left) = Event.unstamped (debounce maxMillis right) := by
  rcases unstamped_cases same with ⟨rfl, rfl⟩ | ⟨a, b, rest, rfl, rfl, button, edge⟩
  · rfl
  · rw [debounce_cons, debounce_cons maxMillis b]
    exact unstamped_cons.mpr ⟨button, edge, debounce_first button edge rest⟩

theorem map_token_unstamped (same : Event.unstamped left = Event.unstamped right) :
    left.map (·.token) = right.map (·.token) := by
  rcases unstamped_cases same with ⟨rfl, rfl⟩ | ⟨a, b, rest, rfl, rfl, button, edge⟩
  · rfl
  · simp only [List.map_cons, Event.token, button, edge]

end

namespace Scan

structure Alike (s t : Scan) : Prop where
  seen : s.seen = t.seen
  live : Event.unstamped s.live = Event.unstamped t.live
  down : s.down = t.down
  lost : s.lost = t.lost

theorem Alike.step {s t : Scan} (alike : s.Alike t) (maxMillis : Int) (e : Event) :
    (s.step maxMillis e).Alike (t.step maxMillis e) := by
  have live : Event.unstamped (s.liveBefore maxMillis e) = Event.unstamped (t.liveBefore maxMillis e) := by
    unfold liveBefore
    rw [alike.down]
    split
    · rfl
    · exact alike.live
  by_cases fits : e.edge = .release ↔ e.button ∈ t.down
  · rw [step_of_fits fits, step_of_fits (alike.down ▸ fits)]
    exact ⟨by rw [alike.seen], unstamped_append live [e], by rw [alike.down], alike.lost⟩
  · rw [step_of_misfit fits, step_of_misfit (alike.down ▸ fits)]
    exact ⟨by rw [alike.seen], rfl, rfl, by rw [alike.seen, alike.lost]⟩

theorem Alike.foldl {s t : Scan} (alike : s.Alike t) (maxMillis : Int) (events : List Event) :
    (events.foldl (Scan.step maxMillis) s).Alike (events.foldl (Scan.step maxMillis) t) := by
  induction events generalizing s t with
  | nil => exact alike
  | cons e rest ih => exact ih (alike.step maxMillis e)

theorem alike_first {a b : Event} (button : a.button = b.button) (edge : a.edge = b.edge)
    (maxMillis : Int) : (({} : Scan).step maxMillis a).Alike (({} : Scan).step maxMillis b) := by
  have nothing : ∀ e : Event, ({} : Scan).liveBefore maxMillis e = [] := by
    intro e
    unfold liveBefore
    split <;> rfl
  by_cases fits : b.edge = .release ↔ b.button ∈ ({} : Scan).down
  · have fits' : a.edge = .release ↔ a.button ∈ ({} : Scan).down := by rwa [button, edge]
    rw [step_of_fits fits, step_of_fits fits', nothing, nothing, button, edge]
    exact ⟨rfl, unstamped_cons.mpr ⟨button, edge, rfl⟩, rfl, rfl⟩
  · have misfit : ¬(a.edge = .release ↔ a.button ∈ ({} : Scan).down) := by rwa [button, edge]
    rw [step_of_misfit fits, step_of_misfit misfit, button, edge]
    exact ⟨rfl, rfl, rfl, rfl⟩

theorem alike_ofEvents {left right : List Event} (same : Event.unstamped left = Event.unstamped right)
    (maxMillis : Int) : (ofEvents maxMillis left).Alike (ofEvents maxMillis right) := by
  rcases unstamped_cases same with ⟨rfl, rfl⟩ | ⟨a, b, rest, rfl, rfl, button, edge⟩
  · exact ⟨rfl, rfl, rfl, rfl⟩
  · exact (alike_first button edge maxMillis).foldl maxMillis rest

end Scan

namespace Buffer

theorem unstamped_inj {b c : Buffer} : b.unstamped = c.unstamped ↔
    b.maxMillis = c.maxMillis ∧ b.chatterMillis = c.chatterMillis ∧
      Event.unstamped b.events = Event.unstamped c.events := by
  simp only [unstamped, Buffer.mk.injEq]

theorem telling_unstamped : Telling unstamped where
  append {b c} same e := by
    obtain ⟨silence, chatter, events⟩ := unstamped_inj.mp same
    refine unstamped_inj.mpr ⟨silence, chatter, ?_⟩
    have trimmed := (Scan.alike_ofEvents (unstamped_append events [e]) c.maxMillis).live
    simp only [append, trim, silence, chatter]
    exact unstamped_debounce trimmed c.chatterMillis
  lost {b c} same e := by
    obtain ⟨silence, _, events⟩ := unstamped_inj.mp same
    simp only [appendLost, trimLost, silence]
    exact (Scan.alike_ofEvents (unstamped_append events [e]) c.maxMillis).lost
  tokens {b c} same := by
    obtain ⟨_, _, events⟩ := unstamped_inj.mp same
    exact map_token_unstamped events
  clear {b c} same := by
    obtain ⟨silence, chatter, _⟩ := unstamped_inj.mp same
    simp only [clear, silence, chatter]

theorem append_afresh {b : Buffer} {e : Event} (follows : Follows [] b.events)
    (up : held b.events = []) (silence : b.events = [] ∨ b.maxMillis < e.elapsed) :
    (b.append e).events = if e.edge = .press then [e] else [] := by
  have scan := Scan.foldl_of_follows (s := {}) follows b.maxMillis
  have down : (Scan.ofEvents b.maxMillis b.events).down = [] := scan.2.trans up
  have nothing : (Scan.ofEvents b.maxMillis b.events).liveBefore b.maxMillis e = [] := by
    rcases silence with empty | silence
    · rw [empty]
      unfold Scan.liveBefore
      split <;> rfl
    · rw [Scan.liveBefore, down, if_pos (by simpa using silence)]
  have live : trim b.maxMillis (b.events ++ [e]) = if e.edge = .press then [e] else [] := by
    rw [trim, Scan.ofEvents_append, Scan.step_live, nothing, down]
    cases e.edge <;> simp
  rw [append, live]
  split <;> rfl

theorem unstamped_extend {b c : Buffer} (clear : b.clear = c.clear) (follows : Follows [] b.events)
    (follows' : Follows [] c.events) (up : held b.events = []) (up' : held c.events = [])
    (button : Button) (level millis millis' : Int) (silence : b.events = [] ∨ b.maxMillis < millis)
    (silence' : c.events = [] ∨ c.maxMillis < millis') :
    (b.extend (Decoder.eventsOf button (some level) millis)).unstamped =
      (c.extend (Decoder.eventsOf button (some level) millis')).unstamped := by
  obtain ⟨maxMillis, chatter, _⟩ := Buffer.mk.inj clear
  refine unstamped_inj.mpr ⟨maxMillis, chatter, ?_⟩
  simp only [Decoder.eventsOf, extend, List.foldl_cons, List.foldl_nil]
  rw [append_afresh follows up silence, append_afresh follows' up' silence']
  dsimp only
  split <;> rfl

theorem extend_clear (b : Buffer) (events : List Event) : (b.extend events).clear = b.clear := by
  induction events generalizing b with
  | nil => rfl
  | cons e rest ih => exact ih (b.append e)

end Buffer

namespace Recognizer

/-- How a recognizer stands when it has received some reports since it was set up with an empty buffer:
    the decoder knows the stamp of the last one that named a button, and before the first of these the
    buffer is empty. -/
structure Heard (buffer : Buffer) (reports : List Arrival) (s : State) : Prop where
  count : s.received = reports.length
  last : s.decoder.last = (named reports).getLast?.map (·.raw.timestamp)
  clear : s.buffer.clear = buffer
  silent : named reports = [] → s.buffer.events = []
  follows : Follows [] s.buffer.events

section

variable {r : Recognizer} {buffer : Buffer} {reports : List Arrival} {s : State} {time : Rat}

theorem heard_nil (empty : buffer.events = []) : Heard buffer [] { buffer := buffer } where
  count := rfl
  last := rfl
  clear := by
    rw [Buffer.clear, ← empty]
  silent _ := empty
  follows := by
    dsimp only
    rw [empty]
    trivial

theorem Heard.repeatUntil (heard : Heard buffer reports s) (time : Rat) :
    Heard buffer reports (repeatUntil time s).state := by
  cases wait : s.wait with
  | repeating a last =>
    rw [repeatUntil_repeating wait]
    exact ⟨heard.count, heard.last, heard.clear, heard.silent, heard.follows⟩
  | _ =>
    simp only [Recognizer.repeatUntil, wait]
    exact heard

theorem Heard.expire (heard : Heard buffer reports s) (ok : (expire time s).failure = none) :
    Heard buffer reports (expire time s).state := by
  refine expire_induction ok heard (fun a due fired => ?_) fun t heard => heard.repeatUntil time
  rw [fire_state fired]
  exact ⟨heard.count, heard.last, heard.clear, fun _ => rfl, trivial⟩

theorem Heard.receive (heard : Heard buffer reports s) (settled : s.Settled) {x : Arrival}
    (ok : (r.receive x.time x.raw s).failure = none) :
    Heard buffer (reports ++ [x]) (r.receive x.time x.raw s).state := by
  obtain ⟨events, decoder, decoded⟩ := decoded_of_ok ok
  obtain ⟨wait, phase, left⟩ := receive_state settled decoded ok
  have follows := (Buffer.extend_follows heard.follows (dropOwed s.owed events).1).1
  have clear := (Buffer.extend_clear s.buffer (dropOwed s.owed events).1).trans heard.clear
  have count : s.received + 1 = (reports ++ [x]).length := by
    rw [heard.count, List.length_append, List.length_singleton]
  rw [left]
  rcases decode_cases decoded with ⟨name, rfl, rfl⟩ | ⟨_, _, name, _, rfl⟩
  · have none : named [x] = [] := List.filter_cons_of_neg (by simp [name])
    have same : named (reports ++ [x]) = named reports := by rw [named_append, none, List.append_nil]
    refine ⟨count, by rw [same]; exact heard.last, clear, ?_, follows⟩
    rw [same]
    exact heard.silent
  · have one : named [x] = [x] := List.filter_cons_of_pos (by simp [name])
    have same : named (reports ++ [x]) = named reports ++ [x] := by rw [named_append, one]
    refine ⟨count, ?_, clear, fun none => ?_, follows⟩
    · rw [same, List.getLast?_concat, Option.map_some]
      rfl
    · rw [same] at none
      exact absurd none (by simp)

theorem Heard.onward {arrivals : List Arrival} (heard : Heard buffer reports s) (settled : s.Settled)
    (ok : (r.onward time arrivals s).failure = none) :
    Heard buffer (reports ++ arrivals) (r.onward time arrivals s).state ∧
      (r.onward time arrivals s).state.Settled := by
  induction arrivals generalizing reports s with
  | nil =>
    rw [List.append_nil]
    exact ⟨heard.expire ok, settled.expire ok⟩
  | cons x rest ih =>
    rw [onward_cons] at ok ⊢
    obtain ⟨waited, ok⟩ := Outcome.failure_andThen_eq_none.mp ok
    obtain ⟨taken, ok⟩ := Outcome.failure_andThen_eq_none.mp ok
    rw [Outcome.andThen_of_ok waited, Outcome.andThen_of_ok taken, List.append_cons]
    have settled' := settled.expire waited
    exact ih ((heard.expire waited).receive settled' taken) (settled'.receive taken) ok

def State.recording (s : State) (events : List Event) (decoder : Decoder) : State :=
  { (s.taking events decoder).idle with buffer := s.buffer.extend events }

theorem receive_recorded (r : Recognizer) (time : Rat) (settled : s.Settled) (free : s.owed = []) {raw : Raw}
    {events : List Event} {decoder : Decoder} (some : events ≠ [])
    (decoded : s.decoder.decode raw = .ok (events, decoder)) :
    let recorded := s.recording events decoder
    let steps := .received s.received :: breakSteps s.wait ++ (s.buffer.extendLost events).map .lost
    r.receive time raw s =
      (⟨recorded, entriesAt time (steps ++ [.recorded events recorded.buffer]), none⟩ : Outcome).andThen
        (r.judge time) := by
  have kept : (dropOwed s.owed events).1 = events := by
    rw [free, dropOwed_of_free fun e _ => List.not_mem_nil]
  rw [receive_batch settled decoded (by rwa [kept]), kept,
    Outcome.andThen_through (evaluate_eq_judge r time events _), ← entriesAt_append]
  simp only [List.cons_append, List.append_assoc]
  rfl

theorem recording_owed (free : s.owed = []) (events : List Event) (decoder : Decoder) :
    (s.recording events decoder).owed = [] := by
  have kept : (s.recording events decoder).owed = (dropOwed s.owed events).2 := rfl
  rw [kept, free, dropOwed_of_free fun e _ => List.not_mem_nil]

/-- Whether the stamps of two reports tell exactly how long after the one the other came. -/
def Exact (x y : Arrival) : Prop :=
  ∃ millis : Int, elapsedBetween x.raw.timestamp y.raw.timestamp = .ok millis ∧
    (millis : Rat) = y.time - x.time

theorem decode_first {d : Decoder} (last : d.last = none) {raw : Raw} {button : Button}
    (name : raw.button? = some button) :
    d.decode raw = .ok (Decoder.eventsOf button raw.value 0, ⟨some raw.timestamp⟩) := by
  rw [Raw.button?] at name
  simp only [Decoder.decode, name, Decoder.elapsed, last]
  rfl

theorem Heard.decode (heard : Heard buffer reports s) {e : Arrival} {button : Button}
    (name : e.raw.button? = some button)
    (silence : ∀ x ∈ (named reports).getLast?, Exact x e ∧ x.time + buffer.maxMillis < e.time) :
    ∃ millis, s.decoder.decode e.raw =
        .ok (Decoder.eventsOf button e.raw.value millis, ⟨some e.raw.timestamp⟩) ∧
      (s.buffer.events = [] ∨ s.buffer.maxMillis < millis) := by
  have threshold : s.buffer.maxMillis = buffer.maxMillis := by
    rw [← heard.clear]
    rfl
  have last := heard.last
  cases before : (named reports).getLast? with
  | none =>
    rw [before] at last
    exact ⟨0, decode_first last name, .inl (heard.silent (List.getLast?_eq_none_iff.mp before))⟩
  | some x =>
    rw [before] at last
    obtain ⟨⟨millis, elapsed, exact⟩, apart⟩ := silence x before
    have longer : (s.buffer.maxMillis : Rat) < millis := by
      rw [threshold, exact]
      linarith
    refine ⟨millis, ?_, .inr (by exact_mod_cast longer)⟩
    rw [Raw.button?] at name
    simp only [Decoder.decode, name, Decoder.elapsed, last, Option.map_some, elapsed]
    rfl

theorem standing_recorded (r : Recognizer) (history : List Arrival) {e : Arrival} {u : State} {shown : List Entry}
    (ok : (r.standing buffer history e.time).failure = none)
    (taken : r.receive e.time e.raw (r.standing buffer history e.time).state =
      (⟨u, shown, none⟩ : Outcome).andThen (r.judge e.time)) (later : List Arrival) (endTime : Rat) :
    let goesOn := (r.judge e.time u).andThen (r.onward endTime later)
    r.standing buffer (history ++ e :: later) endTime = ⟨goesOn.state,
      (r.standing buffer history e.time).entries ++ shown ++ goesOn.entries, goesOn.failure⟩ := by
  rw [standing_eq_onward] at ok taken
  dsimp only
  rw [standing_eq_onward, onward_append, Outcome.andThen_of_ok ok, taken, Outcome.andThen_assoc,
    Outcome.andThen_mk, standing_eq_onward, List.append_assoc]

/-- After a silence, with nothing owed or held, the first report of a level is recorded alike. -/
theorem alike_recording {t : State} {reports' : List Arrival} (heard : Heard buffer reports s)
    (heard' : Heard buffer reports' t) (settled : s.Settled) (settled' : t.Settled)
    (free : s.owed = []) (free' : t.owed = []) (up : held s.buffer.events = [])
    (up' : held t.buffer.events = []) (button : Button) (level millis millis' : Int)
    (silence : s.buffer.events = [] ∨ s.buffer.maxMillis < millis)
    (silence' : t.buffer.events = [] ∨ t.buffer.maxMillis < millis') (decoder : Decoder) :
    (s.recording (Decoder.eventsOf button (some level) millis) decoder).Alike Buffer.unstamped
      (t.recording (Decoder.eventsOf button (some level) millis') decoder) where
  wait := rfl
  phase := rfl
  buffer := Buffer.unstamped_extend (heard.clear.trans heard'.clear.symm) heard.follows heard'.follows up up'
    button level millis millis' silence silence'
  decoder := rfl
  owed := by rw [recording_owed free, recording_owed free']
  pending := settled.pending.trans settled'.pending.symm

theorem alike_judge_onward {f : Buffer → Buffer} (telling : Buffer.Telling f) {left right : Recognizer}
    {s t u v : State} {raw : Raw} {shown shown' : List Entry} (settled : s.Settled) (settled' : t.Settled)
    (taken : left.receive time raw s = (⟨u, shown, none⟩ : Outcome).andThen (left.judge time))
    (taken' : right.receive time raw t = (⟨v, shown', none⟩ : Outcome).andThen (right.judge time))
    (count : u.received = s.received + 1) (count' : v.received = t.received + 1)
    (alike : u.Alike f v) {later : List Arrival}
    (agree : ∀ k ≤ later.length, left.Agree right (u.received + k) (v.received + k)) (endTime : Rat) :
    ((left.judge time u).andThen (left.onward endTime later)).Alike f
      ((right.judge time v).andThen (right.onward endTime later)) := by
  have judged := alike_judge telling (agree 0 (Nat.zero_le _)) alike time
  refine judged.andThen fun ok => ?_
  have state : (left.judge time u).state = (left.receive time raw s).state := by
    rw [taken, Outcome.state_andThen]
  have state' : (right.judge time v).state = (right.receive time raw t).state := by
    rw [taken', Outcome.state_andThen]
  have ok₁ : (left.receive time raw s).failure = none := by
    rw [taken]
    exact ok
  have ok₂ : (right.receive time raw t).failure = none := by
    rw [taken']
    exact judged.failure ▸ ok
  refine alike_onward telling ?_ judged.state (state ▸ settled.receive ok₁)
  rw [state, state', receive_received settled ok₁, receive_received settled' ok₂, ← count, ← count']
  exact agree

end

/-- After a silence, when nothing is owed and no button is held, a recognizer goes on with the next report
    of a level as one does that has just been set up and whose hosts answer alike. From the recording of
    this report on, both show the same but for the count of reports and for how long the silence before
    the first event in the buffer was, and in the end have the same tokens in the buffer and the same
    owed. This is so whatever else is reported, and until any time. -/
theorem afresh_after_silence (r fresh : Recognizer) {buffer : Buffer} (empty : buffer.events = [])
    {history : List Arrival} {e : Arrival} (later : List Arrival) (endTime : Rat) {button : Button}
    {level : Int} (name : e.raw.button? = some button) (levelled : e.raw.value = some level)
    (silence : ∀ x ∈ (named history).getLast?, Exact x e ∧ x.time + buffer.maxMillis < e.time)
    (ok : (r.standing buffer history e.time).failure = none)
    (free : (r.standing buffer history e.time).state.owed = [])
    (up : (r.standing buffer history e.time).state.buffer.heldReleases = [])
    (agree : ∀ k ≤ later.length, r.Agree fresh (history.length + 1 + k) (1 + k)) :
    let waiting := r.standing buffer history e.time
    let old := r.run buffer (history ++ e :: later) endTime
    let new := fresh.run buffer (e :: later) endTime
    (old.failure = new.failure ∧ old.state.buffer.tokens = new.state.buffer.tokens ∧
      old.state.owed = new.state.owed) ∧
    ∃ (millis : Int) (lost lost' : List LostEdge) (b b' : Buffer) (rest rest' : List Entry),
      old.entries = waiting.entries ++
        entriesAt e.time (.received history.length :: breakSteps waiting.state.wait ++ lost.map .lost ++
          [.recorded (Decoder.eventsOf button e.raw.value millis) b]) ++ rest ∧
      new.entries = entriesAt e.time (.received 0 :: lost'.map .lost ++
          [.recorded (Decoder.eventsOf button e.raw.value 0) b']) ++ rest' ∧
      b.unstamped = b'.unstamped ∧ seen Buffer.unstamped rest = seen Buffer.unstamped rest' := by
  let s := (r.standing buffer history e.time).state
  let t : State := { buffer := buffer }
  obtain ⟨heard, settled⟩ : Heard buffer history s ∧ s.Settled :=
    (heard_nil empty).onward (settled_start buffer) ok
  obtain ⟨millis, decoded, before⟩ := heard.decode name silence
  have decoded' := decode_first (d := t.decoder) rfl name
  have some : ∀ millis, Decoder.eventsOf button e.raw.value millis ≠ [] := by
    simp [levelled, Decoder.eventsOf]
  -- As nothing is owed, both record the report, and what they have in the buffer then looks the same.
  have taken := receive_recorded r e.time settled free (some millis) decoded
  have taken' := receive_recorded fresh e.time (settled_start buffer) rfl (some 0) decoded'
  have recorded := alike_recording heard (heard_nil empty) settled (settled_start buffer) free rfl
    (List.map_eq_nil_iff.mp up) (by rw [empty]; rfl) button level millis 0 before (.inl empty)
    ⟨.some e.raw.timestamp⟩
  rw [← levelled] at recorded
  have agree' : ∀ k ≤ later.length, r.Agree fresh (s.received + 1 + k) (t.received + 1 + k) := by
    rw [heard.count]
    simpa only [t, Nat.zero_add] using agree
  -- From there on they go side by side.
  have alike := alike_judge_onward Buffer.telling_unstamped settled (settled_start buffer) taken taken' rfl rfl
    recorded agree' endTime
  have stands := standing_recorded r history ok taken later endTime
  have stands' := standing_recorded fresh [] rfl taken' later endTime
  obtain ⟨rest, rest', ran, ran', same⟩ := alike.run _ _ stands stands'
  rw [List.nil_append] at ran'
  dsimp only
  rw [ran, ran']
  refine ⟨⟨alike.failure, Buffer.telling_unstamped.tokens alike.state.buffer, alike.state.owed⟩, millis,
    s.buffer.extendLost (Decoder.eventsOf button e.raw.value millis),
    buffer.extendLost (Decoder.eventsOf button e.raw.value 0), _, _, rest, rest', ?_, ?_,
    recorded.buffer, same⟩
  · rw [← heard.count]
  · rfl

/-- Besides the volume keys, a click of the power key that goes on repeating after it. -/
def blinking : Recognizer where
  table := ⟨"repeat(100,blink)", .repeating 100 "blink",
    [Button.power.token .press, Button.power.token .release], .always, "always"⟩ :: volumeKeys.table
  host := volumeKeys.host

/-- While the click still repeats, a volume key is pressed, and does what it does on its own. -/
theorem afresh_after_silence_blinking :
    let history := [levelAt 0 .power 1, levelAt 50 .power 0]
    let e := levelAt 650 .volumeUp 1
    let later := [levelAt 1200 .volumeUp 0]
    let waiting := blinking.standing {} history e.time
    let old := blinking.run {} (history ++ e :: later) 5000
    let new := blinking.run {} (e :: later) 5000
    waiting.state.wait = .repeating blinking.table[0] 600 ∧
      (new.entries.filterMap Entry.execution?).map (·.1) = [1000, 1100, 1200] ∧
      (old.failure = new.failure ∧ old.state.buffer.tokens = new.state.buffer.tokens ∧
        old.state.owed = new.state.owed) ∧
      ∃ (millis : Int) (lost lost' : List LostEdge) (b b' : Buffer) (rest rest' : List Entry),
        old.entries = waiting.entries ++
          entriesAt e.time (.received history.length :: breakSteps waiting.state.wait ++
            lost.map .lost ++ [.recorded (Decoder.eventsOf .volumeUp e.raw.value millis) b]) ++ rest ∧
        new.entries = entriesAt e.time (.received 0 :: lost'.map .lost ++
            [.recorded (Decoder.eventsOf .volumeUp e.raw.value 0) b']) ++ rest' ∧
        b.unstamped = b'.unstamped ∧ seen Buffer.unstamped rest = seen Buffer.unstamped rest' := by
  have silence : ∀ x ∈ (named [levelAt 0 .power 1, levelAt 50 .power 0]).getLast?,
      Exact x (levelAt 650 .volumeUp 1) ∧
        x.time + (({} : Buffer).maxMillis : Rat) < (levelAt 650 .volumeUp 1).time := by
    have last : (named [levelAt 0 .power 1, levelAt 50 .power 0]).getLast? = some (levelAt 50 .power 0) := rfl
    rw [last]
    rintro x ⟨⟩
    exact ⟨⟨600, by decide +kernel, by decide +kernel⟩, by decide +kernel⟩
  refine ⟨by decide +kernel, by decide +kernel, ?_⟩
  exact afresh_after_silence blinking blinking rfl [levelAt 1200 .volumeUp 0] 5000 (by decide) rfl silence
    (by decide +kernel) (by decide +kernel) (by decide +kernel)
    fun _ _ => ⟨rfl, rfl, fun _ _ => rfl, fun _ _ => rfl, fun _ _ => rfl⟩

end Recognizer

end Gesture
