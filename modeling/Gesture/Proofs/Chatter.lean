import Gesture.Proofs.WellFormed

namespace Gesture

open Event

def atPlaces {α : Type} (keep : Nat → Bool) (items : List α) : List α :=
  (items.zipIdx.filter fun item => keep item.2).map (·.1)

section

variable {α β : Type}

theorem atPlaces_cons (keep : Nat → Bool) (a : α) (rest : List α) :
    atPlaces keep (a :: rest) =
      if keep 0 then a :: atPlaces (fun place => keep (place + 1)) rest
      else atPlaces (fun place => keep (place + 1)) rest := by
  have later : ((rest.zipIdx 1).filter fun item => keep item.2).map (·.1) =
      atPlaces (fun place => keep (place + 1)) rest := by
    rw [List.zipIdx_succ, List.filter_map, List.map_map]
    rfl
  rw [atPlaces, List.zipIdx_cons, List.filter_cons, Nat.zero_add]
  split
  · rw [List.map_cons, later]
  · exact later

theorem map_atPlaces (keep : Nat → Bool) (f : α → β) (items : List α) :
    (atPlaces keep items).map f = atPlaces keep (items.map f) := by
  induction items generalizing keep with
  | nil => rfl
  | cons a rest ih =>
    rw [List.map_cons, atPlaces_cons, atPlaces_cons, ← ih]
    split <;> rfl

theorem atPlaces_of_all {keep : Nat → Bool} (all : ∀ place, keep place = true) (items : List α) :
    atPlaces keep items = items := by
  induction items generalizing keep with
  | nil => rfl
  | cons a rest ih => rw [atPlaces_cons, if_pos (all 0), ih fun place => all (place + 1)]

end

def chatterAt (maxMillis : Int) (events : List Event) (place : Nat) : Bool :=
  match events.drop place with
  | a :: b :: c :: _ => isChatter maxMillis a b c
  | _ => false

def chatterStarts (maxMillis : Int) (events : List Event) : List Nat :=
  (List.range events.length).filter (chatterAt maxMillis events)

def inChatter (maxMillis : Int) (events : List Event) : Nat → Bool
  | 0 => false
  | 1 => chatterAt maxMillis events 0
  | place + 2 => chatterAt maxMillis events (place + 1) || chatterAt maxMillis events place

section

variable {maxMillis : Int} {events : List Event}

theorem chatterAt_succ (maxMillis : Int) (e : Event) (rest : List Event) (place : Nat) :
    chatterAt maxMillis (e :: rest) (place + 1) = chatterAt maxMillis rest place :=
  rfl

theorem chatterAt_eq_true {place : Nat} : chatterAt maxMillis events place = true ↔
    ∃ a b c after, events.drop place = a :: b :: c :: after ∧ isChatter maxMillis a b c = true := by
  unfold chatterAt
  split
  · rename_i a b c after rest
    simp [rest]
  · rename_i few
    simp only [Bool.false_eq_true, false_iff]
    rintro ⟨a, b, c, after, rest, _⟩
    exact few a b c after rest

theorem chatterAt_of_short (few : ∀ a b c rest, events ≠ a :: b :: c :: rest) (place : Nat) :
    chatterAt maxMillis events place = false := by
  rw [Bool.eq_false_iff]
  intro chatter
  obtain ⟨a, b, c, after, rest, _⟩ := chatterAt_eq_true.mp chatter
  have length : events.length ≤ 2 := by
    rcases events with _ | ⟨x, _ | ⟨y, _ | ⟨z, events⟩⟩⟩
    · simp
    · simp
    · simp
    · exact absurd rfl (few x y z events)
  have dropped := congrArg List.length rest
  simp only [List.length_drop, List.length_cons] at dropped
  omega

theorem mem_chatterStarts {place : Nat} :
    place ∈ chatterStarts maxMillis events ↔ chatterAt maxMillis events place = true := by
  rw [chatterStarts, List.mem_filter, List.mem_range, and_iff_right_iff_imp]
  intro chatter
  obtain ⟨a, b, c, after, rest, _⟩ := chatterAt_eq_true.mp chatter
  rw [← Nat.not_le]
  intro past
  rw [List.drop_eq_nil_of_le past] at rest
  cases rest

theorem inChatter_iff {place : Nat} : inChatter maxMillis events place = true ↔
    ∃ start ∈ chatterStarts maxMillis events, place = start + 1 ∨ place = start + 2 := by
  simp only [mem_chatterStarts]
  match place with
  | 0 => simp [inChatter]
  | 1 => simp [inChatter]
  | place + 2 =>
    rw [inChatter, Bool.or_eq_true]
    constructor
    · rintro (chatter | chatter)
      · exact ⟨place + 1, chatter, .inl rfl⟩
      · exact ⟨place, chatter, .inr rfl⟩
    · rintro ⟨start, chatter, same | same⟩
      · obtain rfl : start = place + 1 := by omega
        exact .inl chatter
      · obtain rfl : start = place := by omega
        exact .inr chatter

theorem not_chatterAt_succ {place : Nat} (chatter : chatterAt maxMillis events place = true) :
    chatterAt maxMillis events (place + 1) = false := by
  obtain ⟨a, b, c, after, rest, short⟩ := chatterAt_eq_true.mp chatter
  obtain ⟨_, release, _⟩ := isChatter_apply short
  have next : events.drop (place + 1) = b :: c :: after := by
    rw [← List.drop_drop, rest]
    rfl
  unfold chatterAt
  rw [next]
  cases after with
  | nil => rfl
  | cons d after => simp [isChatter, release]

theorem chatterStarts_apart (maxMillis : Int) (events : List Event) :
    (chatterStarts maxMillis events).Pairwise (fun start later => start + 2 ≤ later) := by
  have increasing : (chatterStarts maxMillis events).Pairwise (· < ·) :=
    List.pairwise_lt_range.filter _
  refine increasing.imp_of_mem fun {start later} first second before => ?_
  have other : later ≠ start + 1 := by
    rintro rfl
    have chatter := mem_chatterStarts.mp second
    rw [not_chatterAt_succ (mem_chatterStarts.mp first)] at chatter
    cases chatter
  omega

end

theorem debounce_eq_atPlaces (maxMillis : Int) (events : List Event) :
    debounce maxMillis events = atPlaces (fun place => !inChatter maxMillis events place) events := by
  fun_induction debounce maxMillis events with
  | case1 a b c rest chatter ih =>
    have begins : chatterAt maxMillis (a :: b :: c :: rest) 0 = true := chatter
    have apart : chatterAt maxMillis (a :: b :: c :: rest) 1 = false := not_chatterAt_succ begins
    have second : inChatter maxMillis (a :: b :: c :: rest) 1 = true := begins
    have third : inChatter maxMillis (a :: b :: c :: rest) 2 = true := Bool.or_eq_true_iff.mpr (.inr begins)
    -- Later events are in chatter just if they are in the list that goes on with the third.
    have shift (place : Nat) : inChatter maxMillis (a :: b :: c :: rest) (place + 3) =
        inChatter maxMillis (c :: rest) (place + 1) := by
      cases place with
      | zero => simp only [inChatter, apart, Bool.or_false, chatterAt_succ]
      | succ place => rfl
    have kept : (debounce maxMillis (c :: rest)).tail =
        atPlaces (fun place => !inChatter maxMillis (c :: rest) (place + 1)) rest := by
      rw [ih, atPlaces_cons]
      rfl
    rw [kept, atPlaces_cons, atPlaces_cons, atPlaces_cons]
    simp only [Nat.zero_add, Nat.reduceAdd, Nat.add_assoc, second, third, shift]
    rfl
  | case2 a b c rest steady ih =>
    have none : chatterAt maxMillis (a :: b :: c :: rest) 0 = false := Bool.not_eq_true _ ▸ steady
    have shift (place : Nat) : inChatter maxMillis (a :: b :: c :: rest) (place + 1) =
        inChatter maxMillis (b :: c :: rest) place := by
      rcases place with _ | _ | place
      · exact none
      · simp only [inChatter, Nat.zero_add, none, Bool.or_false, chatterAt_succ]
      · rfl
    rw [ih, atPlaces_cons _ a]
    simp only [shift]
    rfl
  | case3 short few =>
    refine (atPlaces_of_all (fun place => ?_) short).symm
    rcases place with _ | _ | place
    · rfl
    · simp [inChatter, chatterAt_of_short few]
    · simp [inChatter, chatterAt_of_short few]

theorem debounce_of_chatterFree {maxMillis : Int} {events : List Event}
    (free : ChatterFree maxMillis events) : debounce maxMillis events = events := by
  fun_induction debounce maxMillis events with
  | case1 a b c rest chatter ih =>
    have steady := free a b c (List.prefix_append [a, b, c] rest).isInfix
    rw [chatter] at steady
    cases steady
  | case2 a b c rest steady ih => rw [ih (chatterFree_cons.mp free).2]
  | case3 short few => rfl

section

variable {maxMillis : Int} {left right : List Event}

theorem tokens_debounce_congr (tokens : left.map (·.token) = right.map (·.token))
    (same : ∀ place, chatterAt maxMillis left place = chatterAt maxMillis right place) :
    (debounce maxMillis left).map (·.token) = (debounce maxMillis right).map (·.token) := by
  have marked (place : Nat) : inChatter maxMillis left place = inChatter maxMillis right place := by
    match place with
    | 0 => rfl
    | 1 => exact same 0
    | place + 2 => simp only [inChatter, same]
  simp only [debounce_eq_atPlaces, map_atPlaces, tokens, marked]

theorem chatterStarts_cons (maxMillis : Int) (e : Event) (rest : List Event) :
    chatterStarts maxMillis (e :: rest) =
      (if chatterAt maxMillis (e :: rest) 0 then [0] else []) ++ (chatterStarts maxMillis rest).map (· + 1) := by
  have later : ((List.range rest.length).map Nat.succ).filter (chatterAt maxMillis (e :: rest)) =
      (chatterStarts maxMillis rest).map (· + 1) := by
    rw [List.filter_map]
    rfl
  rw [chatterStarts, List.length_cons, List.range_succ_eq_map, List.filter_cons, later]
  split <;> rfl

theorem length_debounce (maxMillis : Int) (events : List Event) :
    (debounce maxMillis events).length + 2 * (chatterStarts maxMillis events).length = events.length := by
  fun_induction debounce maxMillis events with
  | case1 a b c rest chatter ih =>
    -- Chatter begins at the first of the three events and not at the second; two of them go.
    have begins : chatterAt maxMillis (a :: b :: c :: rest) 0 = true := chatter
    have apart : chatterAt maxMillis (b :: c :: rest) 0 = false := not_chatterAt_succ begins
    obtain ⟨kept, same⟩ : ∃ kept, debounce maxMillis (c :: rest) = c :: kept := ⟨_, debounce_cons _ c rest⟩
    rw [same] at ih ⊢
    simp [chatterStarts_cons _ a, chatterStarts_cons _ b, begins, apart] at ih ⊢
    omega
  | case2 a b c rest steady ih =>
    have none : chatterAt maxMillis (a :: b :: c :: rest) 0 = false := Bool.not_eq_true _ ▸ steady
    simp [chatterStarts_cons _ a, none] at ih ⊢
    omega
  | case3 short few =>
    have none : chatterStarts maxMillis short = [] :=
      List.eq_nil_iff_forall_not_mem.mpr fun place member => by
        have chatter := mem_chatterStarts.mp member
        rw [chatterAt_of_short few] at chatter
        cases chatter
    simp [none]

theorem length_debounce_lt (length : left.length = right.length)
    (more : ∀ place, chatterAt maxMillis left place = true → chatterAt maxMillis right place = true)
    (place : Nat) (other : chatterAt maxMillis left place = false)
    (chatter : chatterAt maxMillis right place = true) :
    (debounce maxMillis right).length < (debounce maxMillis left).length := by
  have within : (chatterStarts maxMillis left).Sublist (chatterStarts maxMillis right) := by
    unfold chatterStarts
    rw [length]
    exact List.monotone_filter_right _ more
  have fewer : (chatterStarts maxMillis left).length < (chatterStarts maxMillis right).length := by
    refine Nat.lt_of_le_of_ne within.length_le fun same => ?_
    have member := mem_chatterStarts.mpr chatter
    rw [← within.eq_of_length same, mem_chatterStarts, other] at member
    cases member
  have kept := length_debounce maxMillis left
  have kept' := length_debounce maxMillis right
  omega

end

namespace Event

def balance (b : Button) (events : List Event) : Int :=
  (edgesOf b events).count .press - (edgesOf b events).count .release

theorem balance_cons (b : Button) (e : Event) (rest : List Event) :
    balance b (e :: rest) =
      (if e.button = b then if e.edge = .press then 1 else -1 else 0) + balance b rest := by
  unfold balance
  rw [edgesOf_cons]
  by_cases same : e.button = b
  · cases edge : e.edge <;> simp [same] <;> omega
  · simp [same]

theorem balance_debounce (maxMillis : Int) (b : Button) (events : List Event) :
    balance b (debounce maxMillis events) = balance b events := by
  fun_induction debounce maxMillis events with
  | case1 first middle last rest chatter ih =>
    obtain ⟨_, release, again, same, same'⟩ := isChatter_apply chatter
    rw [debounce_cons, balance_cons, balance_cons b last] at ih
    rw [balance_cons, balance_cons b first, balance_cons b middle, balance_cons b last]
    -- A release and a press of the same button go together.
    by_cases mine : first.button = b
    · simp [release, again, same, same', mine] at ih ⊢
      omega
    · simp [same, same', mine] at ih ⊢
      omega
  | case2 first middle last rest steady ih => rw [balance_cons, ih, balance_cons b first]
  | case3 short few => rfl

end Event

/-- The removal of chatter takes away the second and the third event of all chatter and nothing else. These
    pairs lie apart, what is left has no chatter in it, so that it is left alone from then on, and each
    button keeps its presses less its releases. -/
theorem debounce_removes_chatter (maxMillis : Int) (events : List Event) :
    let kept := debounce maxMillis events
    let starts := chatterStarts maxMillis events
    debounce maxMillis kept = kept ∧ kept.Sublist events ∧ ChatterFree maxMillis kept ∧
      kept = atPlaces (fun place => ∀ start ∈ starts, place ≠ start + 1 ∧ place ≠ start + 2) events ∧
      starts.Pairwise (fun start later => start + 2 ≤ later) ∧
      (∀ start ∈ starts, ∃ a b c, events[start]? = some a ∧ events[start + 1]? = some b ∧
        events[start + 2]? = some c ∧ b.button = a.button ∧ c.button = a.button ∧
        a.edge = .press ∧ b.edge = .release ∧ c.edge = .press ∧
        b.elapsed ≤ maxMillis ∧ c.elapsed ≤ maxMillis) ∧
      ∀ b, balance b kept = balance b events := by
  intro kept starts
  have free := chatterFree_debounce maxMillis events
  refine ⟨debounce_of_chatterFree free, debounce_sublist maxMillis events, free, ?places,
    chatterStarts_apart maxMillis events, ?each, fun b => balance_debounce maxMillis b events⟩
  case places =>
    have unmarked (place : Nat) : (!inChatter maxMillis events place) =
        decide (∀ start ∈ starts, place ≠ start + 1 ∧ place ≠ start + 2) := by
      rw [Bool.eq_iff_iff, Bool.not_eq_true', ← Bool.not_eq_true, inChatter_iff, decide_eq_true_iff]
      simp only [not_exists, not_and, not_or, starts]
    simp only [kept, debounce_eq_atPlaces, unmarked]
  case each =>
    intro start member
    obtain ⟨a, b, c, after, rest, chatter⟩ := chatterAt_eq_true.mp (mem_chatterStarts.mp member)
    obtain ⟨press, release, again, same, same'⟩ := isChatter_apply chatter
    have there (next : Nat) : events[start + next]? = (a :: b :: c :: after)[next]? := by
      rw [← rest, List.getElem?_drop]
    have short : b.elapsed ≤ maxMillis ∧ c.elapsed ≤ maxMillis := by
      simp only [isChatter, Bool.and_eq_true, decide_eq_true_eq] at chatter
      exact ⟨chatter.1.2, chatter.2⟩
    exact ⟨a, b, c, there 0, there 1, there 2, same, same', press, release, again, short⟩

end Gesture
