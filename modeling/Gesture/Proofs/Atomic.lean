import Gesture.Proofs.Chatter
import Gesture.Proofs.Decoding

namespace Gesture

open Event

section

variable {maxMillis : Int}

theorem isChatter_of_release {a : Event} (release : a.edge = .release) (b c : Event) :
    isChatter maxMillis a b c = false := by
  simp [isChatter, release]

theorem isChatter_of_last_release {c : Event} (release : c.edge = .release) (a b : Event) :
    isChatter maxMillis a b c = false := by
  simp [isChatter, release]

theorem isChatter_click {b : Button} {x y : Int} {e : Event} :
    isChatter maxMillis ⟨b, .press, x⟩ ⟨b, .release, y⟩ e = true ↔
      e.button = b ∧ e.edge = .press ∧ y ≤ maxMillis ∧ e.elapsed ≤ maxMillis := by
  rw [eq_comm (a := e.button)]
  simp [isChatter, and_assoc]

theorem chatterAt_append (before events : List Event) :
    chatterAt maxMillis (before ++ events) before.length = chatterAt maxMillis events 0 := by
  rw [chatterAt, List.drop_left]
  rfl

theorem chatterAt_click (before after : List Event) (b : Button) (x y z : Int) {place : Nat}
    (other : place ≠ before.length) :
    chatterAt maxMillis (before ++ ⟨b, .press, x⟩ :: ⟨b, .release, y⟩ :: after) place =
      chatterAt maxMillis (before ++ ⟨b, .press, x⟩ :: ⟨b, .release, z⟩ :: after) place := by
  induction before generalizing place with
  | nil =>
    match place with
    | 0 => exact absurd rfl other
    | 1 =>
      rcases after with _ | ⟨e, _ | ⟨next, after⟩⟩
      · rfl
      · rfl
      · exact (isChatter_of_release rfl e next).trans (isChatter_of_release rfl e next).symm
    | place + 2 => rfl
  | cons first before ih =>
    cases place with
    | succ place => exact ih (fun same => other (congrArg (· + 1) same))
    | zero =>
      rcases before with _ | ⟨second, _ | ⟨third, before⟩⟩
      · exact (isChatter_of_last_release rfl first _).trans (isChatter_of_last_release rfl first _).symm
      · rfl
      · rfl

theorem tokens_debounce_click (before : List Event) {after : List Event} {b : Button} (x : Int) {y z : Int}
    (same : ∀ e ∈ after.head?, e.button = b → e.edge = .press → e.elapsed ≤ maxMillis →
      (y ≤ maxMillis ↔ z ≤ maxMillis)) :
    (debounce maxMillis (before ++ ⟨b, .press, x⟩ :: ⟨b, .release, y⟩ :: after)).map (·.token) =
      (debounce maxMillis (before ++ ⟨b, .press, x⟩ :: ⟨b, .release, z⟩ :: after)).map (·.token) := by
  refine tokens_debounce_congr (by simp [Event.token]) fun place => ?_
  by_cases here : place = before.length
  · subst here
    rw [chatterAt_append, chatterAt_append]
    cases after with
    | nil => rfl
    | cons e rest =>
      have same := same e rfl
      refine Bool.eq_iff_iff.mpr (isChatter_click.trans (Iff.trans ?_ isChatter_click.symm))
      constructor
      · rintro ⟨button, edge, short, soon⟩
        exact ⟨button, edge, (same button edge soon).mp short, soon⟩
      · rintro ⟨button, edge, short, soon⟩
        exact ⟨button, edge, (same button edge soon).mpr short, soon⟩
  · exact chatterAt_click before after b x y z here

theorem length_debounce_click_lt (before rest : List Event) {b : Button} (x : Int) {y z millis : Int}
    (soon : millis ≤ maxMillis) (short : z ≤ maxMillis) (apart : maxMillis < y) :
    (debounce maxMillis (before ++ ⟨b, .press, x⟩ :: ⟨b, .release, z⟩ :: ⟨b, .press, millis⟩ :: rest)).length <
      (debounce maxMillis (before ++ ⟨b, .press, x⟩ :: ⟨b, .release, y⟩ :: ⟨b, .press, millis⟩ :: rest)).length := by
  have steady : ∀ e, isChatter maxMillis ⟨b, .press, x⟩ ⟨b, .release, y⟩ e = false := by
    intro e
    rw [Bool.eq_false_iff]
    intro chatter
    obtain ⟨_, _, short, _⟩ := isChatter_click.mp chatter
    exact absurd apart (Int.not_lt.mpr short)
  refine length_debounce_lt (by simp) (fun place chatter => ?_) before.length ?_ ?_
  · by_cases here : place = before.length
    · rw [here, chatterAt_append] at chatter
      exact absurd chatter (Bool.eq_false_iff.mp (steady _))
    · rwa [chatterAt_click before _ b x y z here] at chatter
  · rw [chatterAt_append]
    exact steady _
  · rw [chatterAt_append]
    exact isChatter_click.mpr ⟨rfl, rfl, short, soon⟩

end

namespace Scan

variable {maxMillis : Int} {s t : Scan}

theorem step_down (s : Scan) (e : Event) :
    (s.step maxMillis e).down =
      if e.edge = .release ↔ e.button ∈ s.down then e.edge.apply s.down e.button else [] := by
  split
  · rename_i fits
    rw [step_of_fits fits]
  · rename_i misfit
    rw [step_of_misfit misfit]

theorem step_live_eq (down : s.down = t.down) (live : s.live = t.live) (e : Event) :
    (s.step maxMillis e).live = (t.step maxMillis e).live := by
  rw [step_live, step_live, liveBefore, liveBefore, down, live]

theorem foldl_live_eq (down : s.down = t.down) (live : s.live = t.live) (events : List Event) :
    (events.foldl (step maxMillis) s).live = (events.foldl (step maxMillis) t).live := by
  induction events generalizing s t with
  | nil => exact live
  | cons e rest ih =>
    exact ih (by rw [step_down, step_down, down]) (step_live_eq down live e)

theorem foldl_live_cases (down : s.down = t.down) (events : List Event) :
    (events.foldl (step maxMillis) s).live = (events.foldl (step maxMillis) t).live ∨
      (events.foldl (step maxMillis) s).live = s.live ++ events ∧
        (events.foldl (step maxMillis) t).live = t.live ++ events := by
  induction events generalizing s t with
  | nil => exact .inr ⟨(List.append_nil _).symm, (List.append_nil _).symm⟩
  | cons e rest ih =>
    have down' : (s.step maxMillis e).down = (t.step maxMillis e).down := by rw [step_down, step_down, down]
    by_cases kept : (s.step maxMillis e).live = s.live ++ [e] ∧ (t.step maxMillis e).live = t.live ++ [e]
    · rcases ih down' with same | both
      · exact .inl same
      · rw [kept.1, kept.2, List.append_assoc, List.append_assoc] at both
        exact .inr both
    · refine .inl (foldl_live_eq down' ?_ rest)
      rw [step_live, step_live, liveBefore, liveBefore, down] at kept ⊢
      split
      · split
        · rfl
        · rename_i fits joined
          rw [if_pos fits, if_pos fits, if_neg joined, if_neg joined] at kept
          exact absurd ⟨rfl, rfl⟩ kept
      · rfl

theorem step_click (maxMillis : Int) {b : Button} (up : b ∉ s.down) (x y : Int) :
    let after := (s.step maxMillis ⟨b, .press, x⟩).step maxMillis ⟨b, .release, y⟩
    after.live = s.liveBefore maxMillis ⟨b, .press, x⟩ ++ [⟨b, .press, x⟩, ⟨b, .release, y⟩] ∧
      after.down = s.down := by
  have pressed := step_of_fits (s := s) (e := ⟨b, .press, x⟩) (by simpa using up) maxMillis
  have released := step_of_fits (s := s.step maxMillis ⟨b, .press, x⟩) (e := ⟨b, .release, y⟩)
    (by simp [pressed, Edge.apply]) maxMillis
  rw [released, pressed]
  constructor
  · simp [liveBefore, Edge.apply]
  · simp [Edge.apply, List.erase_append_right _ up]

theorem step_click_of_down (maxMillis : Int) {b : Button} (there : b ∈ s.down) (x y : Int) :
    let after := (s.step maxMillis ⟨b, .press, x⟩).step maxMillis ⟨b, .release, y⟩
    after.live = [] ∧ after.down = [] := by
  have pressed := step_of_misfit (s := s) (e := ⟨b, .press, x⟩) (by simpa using there) maxMillis
  have released := step_of_misfit (s := s.step maxMillis ⟨b, .press, x⟩) (e := ⟨b, .release, y⟩)
    (by simp [pressed]) maxMillis
  rw [released]
  exact ⟨rfl, rfl⟩

end Scan

def Rebounds (maxMillis chatterMillis : Int) (down : List Button) (b : Button) (events : List Event) : Prop :=
  ∃ e rest, events = e :: rest ∧ e.button = b ∧ e.edge = .press ∧ e.elapsed ≤ chatterMillis ∧
    (down = [] → e.elapsed ≤ maxMillis)

def clickTokens (maxMillis chatterMillis : Int) (past : List Event) (b : Button) (x y : Int)
    (later : List Event) : List Token :=
  (debounce chatterMillis (trim maxMillis (past ++ ⟨b, .press, x⟩ :: ⟨b, .release, y⟩ :: later))).map (·.token)

section

variable {maxMillis chatterMillis : Int} {past later : List Event} {b : Button} {x : Int}

theorem trim_click (y : Int) :
    trim maxMillis (past ++ ⟨b, .press, x⟩ :: ⟨b, .release, y⟩ :: later) =
      (later.foldl (Scan.step maxMillis) (((Scan.ofEvents maxMillis past).step maxMillis ⟨b, .press, x⟩).step
        maxMillis ⟨b, .release, y⟩)).live := by
  rw [trim, Scan.ofEvents, List.foldl_append]
  rfl

theorem live_after_silence {s t : Scan} (down : s.down = t.down) {e : Event} (up : s.down = [])
    (silence : maxMillis < e.elapsed) (rest : List Event) :
    ((e :: rest).foldl (Scan.step maxMillis) s).live = ((e :: rest).foldl (Scan.step maxMillis) t).live := by
  refine Scan.foldl_live_eq (by rw [Scan.step_down, Scan.step_down, down]) ?_ rest
  simp [Scan.step_live, Scan.liveBefore, ← down, up, silence]

/-- The silence before the release makes no difference, unless the button is pressed again soon after a press
    that was not soon itself. -/
theorem clickTokens_eq (positive : 0 ≤ x) (steady : b ∉ (Scan.ofEvents maxMillis past).down →
      chatterMillis < x → ¬Rebounds maxMillis chatterMillis (Scan.ofEvents maxMillis past).down b later) :
    clickTokens maxMillis chatterMillis past b x x later =
      clickTokens maxMillis chatterMillis past b x 0 later := by
  unfold clickTokens
  rw [trim_click, trim_click]
  generalize Scan.ofEvents maxMillis past = s at steady
  by_cases up : b ∈ s.down
  · obtain ⟨live, down⟩ := Scan.step_click_of_down maxMillis up x x
    obtain ⟨live', down'⟩ := Scan.step_click_of_down maxMillis up x 0
    rw [Scan.foldl_live_eq (down.trans down'.symm) (live.trans live'.symm)]
  · obtain ⟨live, down⟩ := Scan.step_click maxMillis up x x
    obtain ⟨live', down'⟩ := Scan.step_click maxMillis up x 0
    -- After a silence nothing is left of the click. Otherwise what is live goes on from both.
    by_cases silence : ∃ e rest, later = e :: rest ∧ s.down = [] ∧ maxMillis < e.elapsed
    · obtain ⟨e, rest, rfl, none, long⟩ := silence
      rw [live_after_silence (down.trans down'.symm) (down.trans none) long]
    · rcases Scan.foldl_live_cases (down.trans down'.symm) later with same | ⟨kept, kept'⟩
      · rw [same]
      · rw [kept, kept', live, live', List.append_assoc, List.append_assoc]
        refine tokens_debounce_click _ x fun e first button edge soon => ?_
        have short : x ≤ chatterMillis := by
          rw [← Int.not_lt]
          intro apart
          obtain ⟨rest, follows⟩ : ∃ rest, later = e :: rest := List.head?_eq_some_iff.mp first
          refine steady up apart ⟨e, rest, follows, button, edge, soon, fun none => ?_⟩
          rw [← Int.not_lt]
          exact fun long => silence ⟨e, rest, follows, none, long⟩
        exact iff_of_true short (positive.trans short)

theorem clickTokens_ne (up : b ∉ (Scan.ofEvents maxMillis past).down) (apart : chatterMillis < x)
    {y : Int} (positive : 0 ≤ y) {value : Option Int} (press : value ≠ some 0) (soon : y ≤ chatterMillis)
    (joined : (Scan.ofEvents maxMillis past).down = [] → y ≤ maxMillis) :
    clickTokens maxMillis chatterMillis past b x x (Decoder.eventsOf b value y) ≠
      clickTokens maxMillis chatterMillis past b x 0 (Decoder.eventsOf b value y) := by
  unfold clickTokens
  rw [trim_click, trim_click]
  generalize Scan.ofEvents maxMillis past = s at up joined
  obtain ⟨live, down⟩ := Scan.step_click maxMillis up x x
  obtain ⟨live', down'⟩ := Scan.step_click maxMillis up x 0
  obtain ⟨rest, events, follows, later⟩ : ∃ rest, Decoder.eventsOf b value y = ⟨b, .press, y⟩ :: rest ∧
      Follows s.down (⟨b, .press, y⟩ :: rest) ∧ Event.Joined maxMillis s.down (⟨b, .press, y⟩ :: rest) := by
    cases value with
    | none => exact ⟨_, rfl, by simp [Follows, Edge.apply, up], joined, by simp [Event.Joined, Edge.apply]⟩
    | some level =>
      have nonzero : level ≠ 0 := fun zero => press (congrArg some zero)
      exact ⟨[], by simp [Decoder.eventsOf, nonzero], by simp [Follows, up], joined, trivial⟩
  rw [events, Scan.foldl_of_joined (down ▸ follows) (down ▸ later),
    Scan.foldl_of_joined (down' ▸ follows) (down' ▸ later)]
  dsimp only
  rw [live, live', List.append_assoc, List.append_assoc]
  have fewer := length_debounce_click_lt (b := b) (s.liveBefore maxMillis ⟨b, .press, x⟩) rest x soon
    (positive.trans soon) apart
  intro same
  have length := congrArg List.length same
  rw [List.length_map, List.length_map] at length
  exact absurd length.symm (Nat.ne_of_lt fewer)

end

namespace Buffer

/-- The tokens of a buffer after it was given the events of reports. -/
def tokensAfter (b : Buffer) (raws : List Raw) : Except ElapsedError (List Token) :=
  (Decoder.decodeAll {} raws).map fun decoded => (b.extend decoded.1).tokens

/-- Whether a click at once would be chatter if its release came without a silence before it: it comes after
    a silence of its own, and the next report of a button presses the same one again, soon. -/
def Bounces (b : Buffer) (d : Decoder) (button : Button) (timestamp : Binary64) (after : List Raw) : Prop :=
  button ∉ Event.held b.events ∧
    (∃ x, d.elapsed timestamp = .ok x ∧ b.chatterMillis < x) ∧
    ∃ next y, after.find? (·.button?.isSome) = some next ∧ next.button? = some button ∧ next.value ≠ some 0 ∧
      elapsedBetween timestamp next.timestamp = .ok y ∧ y ≤ b.chatterMillis ∧
      (Event.held b.events = [] → y ≤ b.maxMillis)

section

variable {maxMillis chatterMillis : Int} {past : List Event} {before later after : List Raw} {d : Decoder}
  {identifier : Identifier} {button : Button} {level : Int} {timestamp : Binary64} {x : Int}

theorem agrees_extend (maxMillis chatterMillis : Int) (events : List Event) :
    let b := (⟨maxMillis, chatterMillis, []⟩ : Buffer).extend events
    b.maxMillis = maxMillis ∧ b.chatterMillis = chatterMillis ∧ b.Holds events := by
  have agrees := Course.agrees_ofOperations maxMillis chatterMillis [.extend events]
  exact ⟨agrees.silence, agrees.chatter, agrees.holds⟩

theorem tokens_extend (maxMillis chatterMillis : Int) (events : List Event) :
    ((⟨maxMillis, chatterMillis, []⟩ : Buffer).extend events).tokens =
      (debounce chatterMillis (trim maxMillis events)).map (·.token) := by
  obtain ⟨silence, chatter, holds⟩ := agrees_extend maxMillis chatterMillis events
  rw [tokens, holds, silence, chatter]

theorem bounces_extend : ((⟨maxMillis, chatterMillis, []⟩ : Buffer).extend past).Bounces d button timestamp after ↔
    button ∉ (Scan.ofEvents maxMillis past).down ∧ (∃ x, d.elapsed timestamp = .ok x ∧ chatterMillis < x) ∧
      ∃ next y, after.find? (·.button?.isSome) = some next ∧ next.button? = some button ∧ next.value ≠ some 0 ∧
        elapsedBetween timestamp next.timestamp = .ok y ∧ y ≤ chatterMillis ∧
        ((Scan.ofEvents maxMillis past).down = [] → y ≤ maxMillis) := by
  obtain ⟨silence, chatter, holds⟩ := agrees_extend maxMillis chatterMillis past
  rw [Bounces, holds.held, silence, chatter]

theorem tokensAfter_of_error {b : Buffer} {e : ElapsedError} (failed : Decoder.decodeAll {} before = .error e)
    (rest : List Raw) : b.tokensAfter (before ++ rest) = .error e := by
  rw [tokensAfter, Decoder.decodeAll_append_of_error failed]
  rfl

section

variable (decoded : Decoder.decodeAll {} before = .ok (past, d))

include decoded

theorem tokensAfter_append (rest : List Raw) :
    (⟨maxMillis, chatterMillis, []⟩ : Buffer).tokensAfter (before ++ rest) = (d.decodeAll rest).map fun read =>
      (debounce chatterMillis (trim maxMillis (past ++ read.1))).map (·.token) := by
  rw [tokensAfter, Decoder.decodeAll_append_of_ok decoded]
  cases d.decodeAll rest with
  | error e => rfl
  | ok read => exact congrArg Except.ok (tokens_extend maxMillis chatterMillis _)

variable (known : Button.ofIdentifier? identifier = some button)

include known

theorem tokensAfter_undecodable {e : ElapsedError} (failed : d.elapsed timestamp = .error e)
    (value : Option Int) (later : List Raw) :
    (⟨maxMillis, chatterMillis, []⟩ : Buffer).tokensAfter (before ++ ⟨identifier, value, timestamp⟩ :: later) =
      .error e := by
  have named : (⟨identifier, value, timestamp⟩ : Raw).button? = some button := known
  have undecodable : d.decode ⟨identifier, value, timestamp⟩ = .error e := Decoder.decode_eq_error named failed
  rw [tokensAfter_append decoded, Decoder.decodeAll_cons_of_error undecodable]
  rfl

theorem tokensAfter_atomic (gap : d.elapsed timestamp = .ok x) (later : List Raw) :
    (⟨maxMillis, chatterMillis, []⟩ : Buffer).tokensAfter (before ++ ⟨identifier, none, timestamp⟩ :: later) =
      (Decoder.decodeAll ⟨some timestamp⟩ later).map fun read =>
        clickTokens maxMillis chatterMillis past button x x read.1 := by
  have named : (⟨identifier, none, timestamp⟩ : Raw).button? = some button := known
  have click : d.decode ⟨identifier, none, timestamp⟩ =
      .ok ([⟨button, .press, x⟩, ⟨button, .release, x⟩], ⟨some timestamp⟩) := Decoder.decode_eq_ok named gap
  rw [tokensAfter_append decoded, Decoder.decodeAll_cons_of_ok click]
  cases Decoder.decodeAll ⟨some timestamp⟩ later <;> rfl

theorem tokensAfter_press (gap : d.elapsed timestamp = .ok x) (down : level ≠ 0) (later : List Raw) :
    (⟨maxMillis, chatterMillis, []⟩ : Buffer).tokensAfter (before ++ ⟨identifier, some level, timestamp⟩ :: later) =
      (Decoder.decodeAll ⟨some timestamp⟩ later).map fun read =>
        (debounce chatterMillis (trim maxMillis (past ++ ⟨button, .press, x⟩ :: read.1))).map (·.token) := by
  have named : (⟨identifier, some level, timestamp⟩ : Raw).button? = some button := known
  have press : d.decode ⟨identifier, some level, timestamp⟩ =
      .ok ([⟨button, .press, x⟩], ⟨some timestamp⟩) := by
    rw [Decoder.decode_eq_ok named gap]
    simp [Decoder.eventsOf, down]
  rw [tokensAfter_append decoded, Decoder.decodeAll_cons_of_ok press]
  cases Decoder.decodeAll ⟨some timestamp⟩ later <;> rfl

theorem tokensAfter_levels (gap : d.elapsed timestamp = .ok x) (down : level ≠ 0)
    (finite : timestamp.isFinite = true) (later : List Raw) :
    (⟨maxMillis, chatterMillis, []⟩ : Buffer).tokensAfter
        (before ++ ⟨identifier, some level, timestamp⟩ :: ⟨identifier, some 0, timestamp⟩ :: later) =
      (Decoder.decodeAll ⟨some timestamp⟩ later).map fun read =>
        clickTokens maxMillis chatterMillis past button x 0 read.1 := by
  have named : (⟨identifier, some 0, timestamp⟩ : Raw).button? = some button := known
  have release : Decoder.decode ⟨some timestamp⟩ ⟨identifier, some 0, timestamp⟩ =
      .ok ([⟨button, .release, 0⟩], ⟨some timestamp⟩) :=
    Decoder.decode_eq_ok named (elapsedBetween_self finite)
  rw [tokensAfter_press decoded known gap down, Decoder.decodeAll_cons_of_ok release]
  cases Decoder.decodeAll ⟨some timestamp⟩ later <;> rfl

theorem tokensAfter_levels_of_infinite (gap : d.elapsed timestamp = .ok x) (down : level ≠ 0)
    (infinite : timestamp.isFinite = false) (later : List Raw) :
    ∃ e, (⟨maxMillis, chatterMillis, []⟩ : Buffer).tokensAfter
      (before ++ ⟨identifier, some level, timestamp⟩ :: ⟨identifier, some 0, timestamp⟩ :: later) = .error e := by
  obtain ⟨e, failed⟩ := elapsedBetween_of_infinite infinite timestamp
  have named : (⟨identifier, some 0, timestamp⟩ : Raw).button? = some button := known
  have undecodable : Decoder.decode ⟨some timestamp⟩ ⟨identifier, some 0, timestamp⟩ = .error e :=
    Decoder.decode_eq_error named failed
  rw [tokensAfter_press decoded known gap down, Decoder.decodeAll_cons_of_error undecodable]
  exact ⟨e, rfl⟩

theorem finite_of_tokensAfter_eq (down : level ≠ 0) (last : d.last = none)
    (same : (⟨maxMillis, chatterMillis, []⟩ : Buffer).tokensAfter (before ++ [⟨identifier, none, timestamp⟩]) =
      (⟨maxMillis, chatterMillis, []⟩ : Buffer).tokensAfter
        (before ++ [⟨identifier, some level, timestamp⟩, ⟨identifier, some 0, timestamp⟩])) :
    timestamp.isFinite = true := by
  have gap : d.elapsed timestamp = .ok 0 := by rw [Decoder.elapsed, last]
  rw [← Bool.not_eq_false]
  intro infinite
  obtain ⟨e, failed⟩ := tokensAfter_levels_of_infinite decoded known gap down infinite []
  rw [tokensAfter_atomic decoded known gap, failed] at same
  cases same

theorem not_bounces_of_tokensAfter_eq (down : level ≠ 0) (first : d.last = none → timestamp.isFinite = true)
    (same : ∀ later, later <+: after →
      (⟨maxMillis, chatterMillis, []⟩ : Buffer).tokensAfter (before ++ ⟨identifier, none, timestamp⟩ :: later) =
        (⟨maxMillis, chatterMillis, []⟩ : Buffer).tokensAfter
          (before ++ ⟨identifier, some level, timestamp⟩ :: ⟨identifier, some 0, timestamp⟩ :: later)) :
    ¬((⟨maxMillis, chatterMillis, []⟩ : Buffer).extend past).Bounces d button timestamp after := by
  intro bounces
  obtain ⟨up, ⟨x, gap, apart⟩, next, y, found, named, press, gap', soon, joined⟩ := bounces_extend.mp bounces
  obtain ⟨_, skipped, rest, rfl, unnamed⟩ := List.find?_eq_some_iff_append.mp found
  have here := same (skipped ++ [next]) ⟨rest, by simp⟩
  rw [tokensAfter_atomic decoded known gap,
    tokensAfter_levels decoded known gap down (Decoder.finite_of_elapsed gap first),
    Decoder.decodeAll_of_unnamed_before (by simpa using unnamed) named gap'] at here
  exact clickTokens_ne up apart (elapsedBetween_nonneg gap') press soon joined (Except.ok.inj here)

theorem tokensAfter_atomic_eq (down : level ≠ 0) (first : d.last = none → timestamp.isFinite = true)
    (calm : ¬((⟨maxMillis, chatterMillis, []⟩ : Buffer).extend past).Bounces d button timestamp after)
    (within : later <+: after) :
    (⟨maxMillis, chatterMillis, []⟩ : Buffer).tokensAfter (before ++ ⟨identifier, none, timestamp⟩ :: later) =
      (⟨maxMillis, chatterMillis, []⟩ : Buffer).tokensAfter
        (before ++ ⟨identifier, some level, timestamp⟩ :: ⟨identifier, some 0, timestamp⟩ :: later) := by
  cases gap : d.elapsed timestamp with
  | error e => rw [tokensAfter_undecodable decoded known gap, tokensAfter_undecodable decoded known gap]
  | ok x =>
    rw [tokensAfter_atomic decoded known gap,
      tokensAfter_levels decoded known gap down (Decoder.finite_of_elapsed gap first)]
    cases read : Decoder.decodeAll ⟨some timestamp⟩ later with
    | error e => rfl
    | ok events =>
      refine congrArg Except.ok (clickTokens_eq (Decoder.elapsed_nonneg gap) fun up apart rebounds => ?_)
      -- The press that follows is that of the next report, which comes among the later ones.
      obtain ⟨e, rest, begins, same, press, soon, joined⟩ := rebounds
      obtain ⟨later', last⟩ := events
      obtain rfl : later' = e :: rest := begins
      obtain ⟨next, found, named, gap', value⟩ := Decoder.first_of_decodeAll read
      obtain ⟨more, rfl⟩ := within
      have found : (later ++ more).find? (·.button?.isSome) = some next := by
        rw [List.find?_append, found]
        rfl
      exact calm (bounces_extend.mpr
        ⟨up, ⟨x, gap, apart⟩, next, e.elapsed, found, same ▸ named, value press, gap', soon, joined⟩)

end

/-- A report without a level against a press and a release of its button at the same time, whatever was
    reported before and is reported after. The tokens of the buffer are the same after them and after all later
    reports, unless the report is the first of a button and its timestamp is not finite, in which case the
    release cannot be decoded; or the button was up, the report came after a gap that is too long for
    chatter, and the next report of a button presses it again after a gap that is not. -/
theorem tokensAfter_atomic_iff (maxMillis chatterMillis : Int) {identifier : Identifier} {button : Button}
    (known : Button.ofIdentifier? identifier = some button) {level : Int} (down : level ≠ 0)
    (timestamp : Binary64) (before after : List Raw) :
    let start : Buffer := ⟨maxMillis, chatterMillis, []⟩
    (∀ later, later <+: after →
      start.tokensAfter (before ++ ⟨identifier, none, timestamp⟩ :: later) =
        start.tokensAfter
          (before ++ ⟨identifier, some level, timestamp⟩ :: ⟨identifier, some 0, timestamp⟩ :: later)) ↔
    ∀ past d, Decoder.decodeAll {} before = .ok (past, d) →
      (d.last = none → timestamp.isFinite = true) ∧ ¬(start.extend past).Bounces d button timestamp after := by
  intro start
  cases decoded : Decoder.decodeAll {} before with
  | error e =>
    refine ⟨fun _ => nofun, fun _ later _ => ?_⟩
    rw [tokensAfter_of_error decoded, tokensAfter_of_error decoded]
  | ok read =>
    obtain ⟨past, d⟩ := read
    constructor
    · rintro same _ _ ⟨⟩
      have first (last : d.last = none) : timestamp.isFinite = true :=
        finite_of_tokensAfter_eq decoded known down last (same [] List.nil_prefix)
      exact ⟨first, not_bounces_of_tokensAfter_eq decoded known down first same⟩
    · intro steady later within
      obtain ⟨first, calm⟩ := steady past d rfl
      exact tokensAfter_atomic_eq decoded known down first calm within

end

/-- A report of a key that reports no levels, or one with a level in place of it. -/
def mediaNext (value : Option Int) (millis : Nat) : Raw :=
  ⟨Button.mediaNext.identifier, value, Binary64.ofRatio false millis 1000⟩

theorem tokensAfter_atomic_iff_mediaNext :
    Button.ofIdentifier? Button.mediaNext.identifier = some .mediaNext ∧ (1 : Int) ≠ 0 ∧
      ∀ later, later <+: [mediaNext none 150] →
        (⟨350, 10, []⟩ : Buffer).tokensAfter ([mediaNext none 0] ++ mediaNext none 100 :: later) =
          (⟨350, 10, []⟩ : Buffer).tokensAfter
            ([mediaNext none 0] ++ mediaNext (some 1) 100 :: mediaNext (some 0) 100 :: later) := by
  have known : Button.ofIdentifier? Button.mediaNext.identifier = some .mediaNext := by decide
  refine ⟨known, by decide, (tokensAfter_atomic_iff 350 10 known (by decide) (Binary64.ofRatio false 100 1000)
    [mediaNext none 0] [mediaNext none 150]).mpr fun past d decoded => ?_⟩
  have first : Decoder.decodeAll {} [mediaNext none 0] =
      .ok ([⟨.mediaNext, .press, 0⟩, ⟨.mediaNext, .release, 0⟩], ⟨some (Binary64.ofRatio false 0 1000)⟩) := by
    decide +kernel
  rw [first] at decoded
  cases decoded
  refine ⟨nofun, ?_⟩
  rintro ⟨_, _, next, y, found, _, _, gap, soon, _⟩
  cases found
  have gap' : elapsedBetween (Binary64.ofRatio false 100 1000) (mediaNext none 150).timestamp = .ok 50 := by
    decide +kernel
  rw [gap'] at gap
  cases gap
  exact absurd soon (by decide)

/-- If it comes too soon, it stays with the others; after a press and a release without a silence between them
    it would be the end of chatter. -/
theorem tokensAfter_atomic_ne :
    let start : Buffer := ⟨350, 10, []⟩
    let click := [Button.mediaNext.token .press, Button.mediaNext.token .release]
    let atomic := [mediaNext none 0, mediaNext none 100, mediaNext none 105]
    let levels := [mediaNext none 0, mediaNext (some 1) 100, mediaNext (some 0) 100, mediaNext none 105]
    start.tokensAfter atomic = .ok (click ++ click ++ click) ∧
      start.tokensAfter levels = .ok (click ++ click) ∧ start.tokensAfter atomic ≠ start.tokensAfter levels := by
  decide +kernel

end Buffer

end Gesture
