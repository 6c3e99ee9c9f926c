import Gesture.Proofs.Repetition

namespace Gesture

namespace Buffer

structure Telling (f : Buffer → Buffer) : Prop where
  append : ∀ {b c : Buffer}, f b = f c → ∀ e, f (b.append e) = f (c.append e)
  lost : ∀ {b c : Buffer}, f b = f c → ∀ e, b.appendLost e = c.appendLost e
  tokens : ∀ {b c : Buffer}, f b = f c → b.tokens = c.tokens
  clear : ∀ {b c : Buffer}, f b = f c → b.clear = c.clear

theorem telling_id : Telling id where
  append same e := congrArg (·.append e) same
  lost same e := congrArg (·.appendLost e) same
  tokens same := congrArg Buffer.tokens same
  clear same := congrArg Buffer.clear same

section

variable {f : Buffer → Buffer} {b c : Buffer}

theorem Telling.maxMillis (telling : Telling f) (same : f b = f c) : b.maxMillis = c.maxMillis := by
  have cleared : b.clear.maxMillis = c.clear.maxMillis := congrArg Buffer.maxMillis (telling.clear same)
  exact cleared

theorem Telling.extend (telling : Telling f) (same : f b = f c) (events : List Event) :
    f (b.extend events) = f (c.extend events) ∧ b.extendLost events = c.extendLost events := by
  induction events generalizing b c with
  | nil => exact ⟨same, rfl⟩
  | cons e rest ih =>
    obtain ⟨later, lost⟩ := ih (telling.append same e)
    exact ⟨later, by rw [extendLost, extendLost, telling.lost same, lost]⟩

theorem heldReleases_eq_tokens (b : Buffer) :
    b.heldReleases = (Token.held b.tokens).map .release := by
  rw [tokens, Event.held_tokens, List.map_map]
  rfl

theorem Telling.heldReleases (telling : Telling f) (same : f b = f c) :
    b.heldReleases = c.heldReleases := by
  rw [heldReleases_eq_tokens, heldReleases_eq_tokens, telling.tokens same]

end

end Buffer

namespace Recognizer

/-- Recognizers with the same actions whose hosts answer alike when the one has received `n` reports and
    the other `m`. -/
structure Agree (left right : Recognizer) (n m : Nat) : Prop where
  table : left.table = right.table
  android : left.android = right.android
  locked : ∀ instant asked, left.host.locked ⟨instant, n, asked⟩ = right.host.locked ⟨instant, m, asked⟩
  foreground : ∀ instant asked,
    left.host.foreground ⟨instant, n, asked⟩ = right.host.foreground ⟨instant, m, asked⟩
  title : ∀ instant asked, left.host.title ⟨instant, n, asked⟩ = right.host.title ⟨instant, m, asked⟩

end Recognizer

theorem Recognizer.Agree.refl (r : Recognizer) (n : Nat) : r.Agree r n n :=
  ⟨rfl, rfl, fun _ _ => rfl, fun _ _ => rfl, fun _ _ => rfl⟩

namespace Snapshot

def counted (s : Snapshot) (n : Nat) : Snapshot :=
  { s with received := n }

def Match {α : Type} (n m : Nat) (x y : α × Snapshot) : Prop :=
  ∃ answer later, x = (answer, counted later n) ∧ y = (answer, counted later m)

theorem Match.map {α β : Type} {n m : Nat} {x y : α × Snapshot} (same : Match n m x y) (g : α → β) :
    Match n m (g x.1, x.2) (g y.1, y.2) := by
  obtain ⟨answer, later, rfl, rfl⟩ := same
  exact ⟨g answer, later, rfl, rfl⟩

section

variable {left right : Recognizer} {n m : Nat}

theorem match_askLocked (agree : left.Agree right n m) (time : Rat) (s : Snapshot) :
    Match n m ((s.counted n).askLocked left.host time) ((s.counted m).askLocked right.host time) := by
  obtain ⟨received, locked, foreground, title, notes⟩ := s
  cases locked with
  | some answer => exact ⟨answer, ⟨received, some answer, foreground, title, notes⟩, rfl, rfl⟩
  | none =>
    simp only [askLocked, counted, moment, asked, agree.locked]
    exact ⟨_, ⟨received, _, foreground, title, _⟩, rfl, rfl⟩

theorem match_askForeground (agree : left.Agree right n m) (time : Rat) (s : Snapshot) :
    Match n m ((s.counted n).askForeground left.host time)
      ((s.counted m).askForeground right.host time) := by
  obtain ⟨received, locked, foreground, title, notes⟩ := s
  cases foreground with
  | some answer => exact ⟨answer, ⟨received, locked, some answer, title, notes⟩, rfl, rfl⟩
  | none =>
    simp only [askForeground, counted, moment, asked, agree.foreground]
    exact ⟨_, ⟨received, locked, _, title, _⟩, rfl, rfl⟩

theorem match_askTitle (agree : left.Agree right n m) (time : Rat) (s : Snapshot) :
    Match n m ((s.counted n).askTitle left.host time) ((s.counted m).askTitle right.host time) := by
  obtain ⟨received, locked, foreground, title, notes⟩ := s
  cases title with
  | some answer => exact ⟨answer, ⟨received, locked, foreground, some answer, notes⟩, rfl, rfl⟩
  | none =>
    simp only [askTitle, counted, moment, asked, agree.title]
    exact ⟨_, ⟨received, locked, foreground, _, _⟩, rfl, rfl⟩

theorem match_evaluate (agree : left.Agree right n m) (time : Rat) (s : Snapshot) (c : Condition) :
    Match n m ((s.counted n).evaluate left.host left.android time c)
      ((s.counted m).evaluate right.host right.android time c) := by
  have locked := match_askLocked agree time s
  have foreground := match_askForeground agree time s
  let window (wanted : Bool) (reply : Reply (Option String)) : Except Regex.Error Bool :=
    .ok (windowIs wanted reply)
  cases c with
  | always => exact ⟨_, s, rfl, rfl⟩
  | locked => exact locked.map Except.ok
  | unlocked => exact locked.map fun answer => Except.ok !answer
  | home =>
    obtain ⟨answer, later, asked, asked'⟩ := locked
    simp only [evaluate, asked, asked']
    cases answer with
    | true => exact ⟨_, later, rfl, rfl⟩
    | false => exact (match_askForeground agree time later).map (window false)
  | noApp => exact foreground.map (window false)
  | anyApp => exact foreground.map (window true)
  | android =>
    rw [← agree.android]
    exact foreground.map (textMatches left.android)
  | app regex => exact foreground.map (textMatches regex)
  | title regex => exact (match_askTitle agree time s).map (textMatches regex)

end

end Snapshot

namespace Recognizer

theorem match_candidate {left right : Recognizer} {n m : Nat} (agree : left.Agree right n m)
    (time : Rat) (tokens : List Token) (s : Snapshot) (table : List Action) :
    Snapshot.Match n m (left.candidate time tokens (s.counted n) table)
      (right.candidate time tokens (s.counted m) table) := by
  induction table generalizing s with
  | nil => exact ⟨_, s, rfl, rfl⟩
  | cons a rest ih =>
    obtain ⟨answer, later, evaluated, evaluated'⟩ := s.match_evaluate agree time a.condition
    simp only [candidate, evaluated, evaluated']
    by_cases occurs : matchesAnywhere a.pattern tokens = true
    · rw [if_pos occurs, if_pos occurs]
      rcases answer with e | _ | _
      · exact ⟨_, later, rfl, rfl⟩
      · exact ih later
      · exact ⟨_, later, rfl, rfl⟩
    · rw [if_neg occurs, if_neg occurs]
      exact ih s

structure State.Alike (f : Buffer → Buffer) (s t : State) : Prop where
  wait : s.wait = t.wait
  phase : s.phase = t.phase
  buffer : f s.buffer = f t.buffer
  decoder : s.decoder = t.decoder
  owed : s.owed = t.owed
  pending : s.pending = t.pending

/-- Whether an entry says no more than that a report has been received. -/
def Entry.isReception (e : Entry) : Bool :=
  match e.step with
  | .received _ => true
  | _ => false

def Entry.seen (f : Buffer → Buffer) (e : Entry) : Entry :=
  match e.step with
  | .recorded events buffer => ⟨e.instant, .recorded events (f buffer)⟩
  | _ => e

def seen (f : Buffer → Buffer) (entries : List Entry) : List Entry :=
  (entries.filter (!·.isReception)).map (.seen f)

def lastInstant? (entries : List Entry) : Option Rat :=
  entries.getLast?.map (·.instant)

structure Outcome.Alike (f : Buffer → Buffer) (o p : Outcome) : Prop where
  state : o.state.Alike f p.state
  entries : seen f o.entries = seen f p.entries
  failure : o.failure = p.failure
  failed : o.failure ≠ none → ∃ time, lastInstant? o.entries = some time ∧
    lastInstant? p.entries = some time

section

variable {f : Buffer → Buffer} {s t : State} {o p : Outcome}

theorem seen_append (f : Buffer → Buffer) (left right : List Entry) :
    seen f (left ++ right) = seen f left ++ seen f right := by
  rw [seen, List.filter_append, List.map_append]
  rfl

theorem seen_id (entries : List Entry) : seen id entries = entries.filter (!·.isReception) := by
  have same : ∀ e : Entry, e.seen id = e := by
    rintro ⟨instant, step⟩
    cases step <;> rfl
  rw [seen, funext same, List.map_id']

theorem lastInstant?_append (left : List Entry) {right : List Entry} {time : Rat}
    (last : lastInstant? right = some time) : lastInstant? (left ++ right) = some time := by
  obtain ⟨e, same, rfl⟩ := Option.map_eq_some_iff.mp last
  rw [lastInstant?, List.getLast?_append, same]
  rfl

theorem State.Alike.refl (f : Buffer → Buffer) (s : State) : s.Alike f s := ⟨rfl, rfl, rfl, rfl, rfl, rfl⟩

theorem State.Alike.eq (alike : s.Alike id t) : { s with received := t.received } = t := by
  obtain ⟨wait, phase, buffer, decoder, owed, pending, received⟩ := t
  obtain ⟨rfl, rfl, rfl, rfl, rfl, rfl⟩ := alike
  rfl

theorem State.Alike.symm (alike : s.Alike f t) : t.Alike f s :=
  ⟨alike.wait.symm, alike.phase.symm, alike.buffer.symm, alike.decoder.symm, alike.owed.symm,
    alike.pending.symm⟩

theorem State.Alike.recount (alike : s.Alike f t) (n m : Nat) :
    State.Alike f { s with received := n } { t with received := m } :=
  ⟨alike.wait, alike.phase, alike.buffer, alike.decoder, alike.owed, alike.pending⟩

theorem State.Alike.trans {u : State} (first : s.Alike f t) (second : t.Alike f u) : s.Alike f u :=
  ⟨first.wait.trans second.wait, first.phase.trans second.phase, first.buffer.trans second.buffer,
    first.decoder.trans second.decoder, first.owed.trans second.owed, first.pending.trans second.pending⟩

theorem Outcome.Alike.symm (alike : o.Alike f p) : p.Alike f o where
  state := alike.state.symm
  entries := alike.entries.symm
  failure := alike.failure.symm
  failed some := by
    obtain ⟨time, here, there⟩ := alike.failed (alike.failure ▸ some)
    exact ⟨time, there, here⟩

theorem Outcome.Alike.trans {q : Outcome} (first : o.Alike f p) (second : p.Alike f q) : o.Alike f q where
  state := first.state.trans second.state
  entries := first.entries.trans second.entries
  failure := first.failure.trans second.failure
  failed some := by
    obtain ⟨time, here, there⟩ := first.failed some
    obtain ⟨time', there', last⟩ := second.failed (first.failure ▸ some)
    obtain rfl : time = time' := Option.some.inj (there.symm.trans there')
    exact ⟨time, here, last⟩

theorem Outcome.Alike.andThen (alike : o.Alike f p) {next next' : State → Outcome}
    (later : o.failure = none → (next o.state).Alike f (next' p.state)) :
    (o.andThen next).Alike f (p.andThen next') := by
  cases failed : o.failure with
  | some failure =>
    rw [andThen_of_failed failed, andThen_of_failed (alike.failure ▸ failed)]
    exact alike
  | none =>
    obtain ⟨state, entries, failure, last⟩ := later failed
    rw [andThen_of_ok failed, andThen_of_ok (alike.failure ▸ failed)]
    refine ⟨state, by rw [seen_append, seen_append, alike.entries, entries], failure, ?_⟩
    intro failed
    obtain ⟨time, here, there⟩ := last failed
    exact ⟨time, lastInstant?_append _ here, lastInstant?_append _ there⟩

theorem lastInstant?_entriesAt (time : Rat) {steps : List Step} (some : steps ≠ []) :
    lastInstant? (entriesAt time steps) = .some time := by
  simp [lastInstant?, entriesAt, List.getLast?_eq_some_getLast some]

theorem Outcome.Alike.after {entries : List Entry} {next : State → Outcome} (alike : (next s).Alike f p)
    (nothing : seen f entries = []) : ((⟨s, entries, none⟩ : Outcome).andThen next).Alike f p where
  state := alike.state
  entries := by rw [andThen_mk, seen_append, nothing, List.nil_append, alike.entries]
  failure := alike.failure
  failed some := by
    obtain ⟨time, here, there⟩ := alike.failed some
    exact ⟨time, lastInstant?_append _ here, there⟩

theorem Outcome.Alike.of_steps {time : Rat} {steps steps' : List Step} {failure : Option Failure}
    (some : steps ≠ []) (some' : steps' ≠ []) (alike : s.Alike f t)
    (same : seen f (entriesAt time steps) = seen f (entriesAt time steps')) :
    (⟨s, entriesAt time steps, failure⟩ : Outcome).Alike f ⟨t, entriesAt time steps', failure⟩ where
  state := alike
  entries := same
  failure := rfl
  failed _ := ⟨time, lastInstant?_entriesAt time some, lastInstant?_entriesAt time some'⟩

theorem Outcome.Alike.of_ok {entries entries' : List Entry} (alike : s.Alike f t)
    (same : seen f entries = seen f entries') :
    (⟨s, entries, none⟩ : Outcome).Alike f ⟨t, entries', none⟩ :=
  ⟨alike, same, rfl, fun failed => absurd rfl failed⟩

end

section

variable {r : Recognizer} {s : State} {time : Rat}

theorem repeatUntil_received (time : Rat) (s : State) :
    (repeatUntil time s).state.received = s.received := by
  cases wait : s.wait with
  | repeating a last => rw [repeatUntil_repeating wait]
  | _ => simp only [repeatUntil, wait]

theorem expire_received (ok : (expire time s).failure = none) :
    (expire time s).state.received = s.received := by
  refine expire_induction (p := fun t => t.received = s.received) ok rfl (fun a due fired => ?_) fun t same => ?_
  · rw [fire_state fired]
  · rw [repeatUntil_received, same]

theorem receive_received (settled : s.Settled) {raw : Raw} (ok : (r.receive time raw s).failure = none) :
    (r.receive time raw s).state.received = s.received + 1 := by
  obtain ⟨events, decoder, decoded⟩ := decoded_of_ok ok
  obtain ⟨wait, phase, left⟩ := receive_state settled decoded ok
  rw [left]
  rfl

end

section

open Buffer

variable {f : Buffer → Buffer} {left right r : Recognizer} {s t : State} {time : Rat} {a : Action}

theorem alike_arm (telling : Telling f) (alike : s.Alike f t) (time : Rat) (a : Action) :
    (arm time a s).Alike f (arm time a t) := by
  have silence : s.buffer.maxMillis = t.buffer.maxMillis := telling.maxMillis alike.buffer
  have armed : State.Alike f { s with phase := .armed } { t with phase := .armed } :=
    { alike with phase := rfl }
  have steps : [Step.phase .armed, .armed a] ≠ [] := List.cons_ne_nil _ _
  by_cases long : (Binary64.ofQuotient? t.buffer.maxMillis 1000).isNone = true
  · simp only [arm, silence, if_pos long]
    exact .of_steps steps steps armed rfl
  · by_cases negative : t.buffer.maxMillis < 0
    · simp only [arm, silence, if_neg long, if_pos negative]
      exact .of_steps steps steps armed rfl
    · simp only [arm, silence, if_neg long, if_neg negative]
      exact .of_ok { armed with wait := rfl } rfl

theorem alike_judge (telling : Telling f) (agree : left.Agree right s.received t.received)
    (alike : s.Alike f t) (time : Rat) : (left.judge time s).Alike f (right.judge time t) := by
  obtain ⟨found, later, search, search'⟩ := match_candidate agree time s.buffer.tokens {} left.table
  have search : left.candidate time s.buffer.tokens { received := s.received } left.table =
      (found, later.counted s.received) := search
  have search' : right.candidate time t.buffer.tokens { received := t.received } right.table =
      (found, later.counted t.received) := by
    rw [← telling.tokens alike.buffer, ← agree.table]
    exact search'
  have evaluating : State.Alike f { s with phase := .evaluating, wait := .input }
      { t with phase := .evaluating, wait := .input } := { alike with phase := rfl, wait := rfl }
  rcases found with e | _ | a
  · simp only [judge, search, search']
    exact .of_steps (List.cons_ne_nil _ _) (List.cons_ne_nil _ _) evaluating rfl
  · simp only [judge, search, search']
    exact .of_ok { evaluating with phase := rfl } rfl
  · simp only [judge, search, search']
    exact (Outcome.Alike.of_ok evaluating rfl).andThen fun _ => alike_arm telling evaluating time a

theorem alike_evaluate (telling : Telling f) (agree : left.Agree right s.received t.received)
    (alike : s.Alike f t) (time : Rat) (events : List Event) :
    (left.evaluate time events s).Alike f (right.evaluate time events t) := by
  obtain ⟨buffer, lost⟩ := telling.extend alike.buffer events
  let s' : State := { s with buffer := s.buffer.extend events }
  let t' : State := { t with buffer := t.buffer.extend events }
  have recorded : s'.Alike f t' := { alike with buffer := buffer }
  have shown : seen f (entriesAt time [.recorded events (s.buffer.extend events)]) =
      seen f (entriesAt time [.recorded events (t.buffer.extend events)]) := by
    simp only [entriesAt, List.map_cons, List.map_nil, seen, Entry.isReception, Bool.not_false,
      List.filter_cons_of_pos, List.filter_nil, Entry.seen, buffer]
  rw [evaluate_eq_judge, evaluate_eq_judge]
  refine Outcome.Alike.andThen (.of_ok recorded ?_) fun _ =>
    alike_judge (s := s') (t := t') telling agree recorded time
  rw [entriesAt_append, entriesAt_append, seen_append, seen_append, lost, shown]

theorem alike_fire (telling : Telling f) (alike : s.Alike f t) (time : Rat) (a : Action) :
    (fire time a s).Alike f (fire time a t) := by
  have tokens := telling.tokens alike.buffer
  have held := telling.heldReleases alike.buffer
  have cleared := telling.clear alike.buffer
  have fired : ∀ phase wait, State.Alike f
      { s with
        owed := oweMore s.owed s.buffer.heldReleases
        buffer := s.buffer.clear
        phase := phase
        wait := wait }
      { t with
        owed := oweMore t.owed t.buffer.heldReleases
        buffer := t.buffer.clear
        phase := phase
        wait := wait } := fun _ _ =>
    ⟨rfl, rfl, by rw [cleared], alike.decoder, by rw [alike.owed, held], alike.pending⟩
  cases repeats : a.interval? with
  | none =>
    simp only [fire, repeats]
    exact .of_ok (fired _ _) rfl
  | some interval =>
    cases ends : matchesEnd a.pattern t.buffer.tokens with
    | false =>
      simp only [fire, repeats, tokens, ends]
      exact .of_ok (fired _ _) rfl
    | true =>
      by_cases long : (Binary64.ofQuotient? interval 1000).isNone = true
      · simp only [fire, repeats, tokens, ends, if_pos long, ← entriesAt_append]
        exact .of_steps (by simp) (by simp) (fired _ _) rfl
      · simp only [fire, repeats, tokens, ends, if_neg long]
        exact .of_ok (fired _ _) rfl

theorem alike_repeatUntil (alike : s.Alike f t) (time : Rat) :
    (repeatUntil time s).Alike f (repeatUntil time t) := by
  cases wait : t.wait with
  | repeating a last =>
    rw [repeatUntil_repeating (alike.wait.trans wait), repeatUntil_repeating wait]
    exact .of_ok { alike with wait := rfl } rfl
  | _ =>
    simp only [repeatUntil, alike.wait, wait]
    exact .of_ok alike rfl

theorem alike_expire (telling : Telling f) (alike : s.Alike f t) (time : Rat) :
    (expire time s).Alike f (expire time t) := by
  rcases expire_cases time t with ⟨early, same⟩ | ⟨a, due, wait, passed, same⟩
  · have early' : s.Early time := fun a due wait => early a due (alike.wait.symm.trans wait)
    rw [same, expire_of_early early']
    exact alike_repeatUntil alike time
  · rw [same, expire_due (alike.wait.trans wait) passed]
    have fired := alike_fire telling alike due a
    exact fired.andThen fun _ => alike_repeatUntil fired.state time

theorem State.Alike.settled (alike : s.Alike f t) (settled : s.Settled) : t.Settled :=
  ⟨alike.pending ▸ settled.pending, by rw [← alike.phase, ← alike.wait, settled.phase]⟩

theorem alike_accept (telling : Telling f) (agree : left.Agree right s.received t.received)
    (alike : s.Alike f t) (settled : s.Settled) (time : Rat) (batch : List Event) :
    (left.accept time batch s).Alike f (right.accept time batch t) := by
  have idle : s.idle.Alike f t.idle := { alike with wait := rfl, phase := rfl }
  have ended : s.holdEnded = t.holdEnded := by
    simp only [State.holdEnded, alike.wait, alike.owed]
  by_cases arrived : batch = []
  · rw [arrived, accept_nil settled, accept_nil (alike.settled settled), ended, alike.wait]
    split
    · exact .of_ok idle rfl
    · exact .of_ok alike rfl
  · rw [accept_batch settled arrived, accept_batch (alike.settled settled) arrived, alike.wait]
    exact (Outcome.Alike.of_ok idle rfl).andThen fun _ =>
      alike_evaluate (s := s.idle) (t := t.idle) telling agree idle time batch

theorem alike_receive (telling : Telling f) (agree : left.Agree right (s.received + 1) (t.received + 1))
    (alike : s.Alike f t) (settled : s.Settled) (time : Rat) (raw : Raw) :
    (left.receive time raw s).Alike f (right.receive time raw t) := by
  have none : ∀ index, seen f (entriesAt time [.received index]) = [] := fun _ => rfl
  cases decoded : t.decoder.decode raw with
  | error e =>
    rw [receive_undecodable (alike.decoder ▸ decoded), receive_undecodable decoded]
    refine .of_steps (by simp) (by simp) ?_ (by rw [none, none])
    exact ⟨alike.wait, alike.phase, alike.buffer, alike.decoder, alike.owed, alike.pending⟩
  | ok result =>
    obtain ⟨events, decoder⟩ := result
    have taken : (s.taking events decoder).Alike f (t.taking events decoder) :=
      ⟨alike.wait, alike.phase, alike.buffer, rfl, congrArg (fun owed => (dropOwed owed events).2) alike.owed,
        alike.pending⟩
    rw [receive_decoded (alike.decoder ▸ decoded), receive_decoded decoded, alike.owed]
    refine (Outcome.Alike.of_ok taken (by rw [none, none])).andThen fun _ => ?_
    exact alike_accept telling agree taken (settled.taking events decoder) time _

theorem alike_onward_cons (telling : Telling f) {x : Arrival} {rest rest' : List Arrival} {endTime : Rat}
    (agree : left.Agree right (s.received + 1) (t.received + 1)) (alike : s.Alike f t)
    (settled : s.Settled)
    (later : ∀ u v, u.Settled → (left.receive x.time x.raw u).failure = none →
      let s' := (left.receive x.time x.raw u).state
      let t' := (right.receive x.time x.raw v).state
      s'.Alike f t' → s'.received = s.received + 1 → t'.received = t.received + 1 →
      (left.onward endTime rest s').Alike f (right.onward endTime rest' t')) :
    (left.onward endTime (x :: rest) s).Alike f (right.onward endTime (x :: rest') t) := by
  have waited := alike_expire telling alike x.time
  rw [onward_cons, onward_cons]
  refine waited.andThen fun ok => ?_
  have ok' : (expire x.time t).failure = none := waited.failure ▸ ok
  have settled' := settled.expire ok
  have settled'' := waited.state.settled settled'
  rw [← expire_received ok, ← expire_received ok'] at agree
  have taken := alike_receive telling agree waited.state settled' x.time x.raw
  refine taken.andThen fun took => later _ _ settled' took taken.state ?_ ?_
  · rw [receive_received settled' took, expire_received ok]
  · rw [receive_received settled'' (taken.failure ▸ took), expire_received ok']

/-- While each receives the same reports, and their hosts answer alike all along, they go on alike. -/
theorem alike_onward (telling : Telling f) {arrivals : List Arrival} {endTime : Rat}
    (agree : ∀ k ≤ arrivals.length, left.Agree right (s.received + k) (t.received + k))
    (alike : s.Alike f t) (settled : s.Settled) :
    (left.onward endTime arrivals s).Alike f (right.onward endTime arrivals t) := by
  induction arrivals generalizing s t with
  | nil => exact alike_expire telling alike endTime
  | cons x rest ih =>
    rw [List.length_cons] at agree
    refine alike_onward_cons telling (agree 1 (by omega)) alike settled ?_
    intro u v settled' took s' t' alike' count count'
    refine ih (fun k within => ?_) alike' (settled'.receive took)
    rw [count, count', Nat.add_assoc, Nat.add_assoc]
    exact agree (1 + k) (by omega)

theorem Outcome.Alike.run {o p : Outcome} (alike : o.Alike f p) {b c : Buffer} {xs ys : List Arrival}
    {endTime : Rat} (before before' : List Entry)
    (stands : left.standing b xs endTime = ⟨o.state, before ++ o.entries, o.failure⟩)
    (stands' : right.standing c ys endTime = ⟨p.state, before' ++ p.entries, p.failure⟩) :
    ∃ rest rest', left.run b xs endTime = ⟨o.state, before ++ rest, o.failure⟩ ∧
      right.run c ys endTime = ⟨p.state, before' ++ rest', p.failure⟩ ∧ seen f rest = seen f rest' := by
  let last := closing endTime ⟨p.state, before' ++ p.entries, p.failure⟩
  have closes : closing endTime ⟨o.state, before ++ o.entries, o.failure⟩ = last := by
    cases ended : o.failure with
    | none => simp only [last, closing, ← alike.failure, ended]
    | some f =>
      obtain ⟨time, here, there⟩ := alike.failed (by simp [ended])
      have here : lastTime (before ++ o.entries) = time :=
        congrArg (·.getD 0) (lastInstant?_append before here)
      have there : lastTime (before' ++ p.entries) = time :=
        congrArg (·.getD 0) (lastInstant?_append before' there)
      simp only [last, closing, ← alike.failure, ended, here, there]
  rw [run_eq_closing, run_eq_closing, stands, stands', closes]
  refine ⟨o.entries ++ last, p.entries ++ last, ?_, ?_, ?_⟩
  · rw [List.append_assoc]
  · rw [List.append_assoc]
  · rw [seen_append, seen_append, alike.entries]

end

end Recognizer

end Gesture
