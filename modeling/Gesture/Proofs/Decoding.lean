import Gesture.Proofs.Derivation
import Gesture.Proofs.Down

namespace Gesture

theorem elapsedBetween_nonneg {earlier later : Binary64} {x : Int}
    (decoded : elapsedBetween earlier later = .ok x) : 0 ≤ x := by
  unfold elapsedBetween at decoded
  dsimp only at decoded
  split at decoded
  · cases decoded
    exact Int.le_max_left ..
  · cases decoded
  · cases decoded

namespace Binary64

theorem nearest_zero (den : Nat) : nearest 0 den = 0 := by
  simp [nearest, roundDiv]

theorem sub_self {a : Binary64} (finite : a.isFinite = true) : ∃ negative, a - a = .finite negative 0 := by
  cases a with
  | finite negative units =>
    have sum : signedUnits negative units + signedUnits (!negative) units = 0 := by
      cases negative <;> simp [signedUnits]
    exact ⟨_, if_pos sum⟩
  | infinite negative => cases finite
  | nan => cases finite

theorem zero_mul_finite (negative negative' : Bool) (units : Nat) :
    (.finite negative 0 * .finite negative' units : Binary64) = .finite (negative != negative') 0 := by
  have positive : 0 < limit := by decide +kernel
  -- Not by `rfl`, which would compute with `one`.
  have product : (.finite negative 0 * .finite negative' units : Binary64) =
      ofUnits (negative != negative') (0 * units) one := by
    simp only [HMul.hMul, Mul.mul, mul]
  rw [product, Nat.zero_mul, ofUnits, nearest_zero]
  exact if_pos positive

theorem sub_of_infinite {a : Binary64} (infinite : a.isFinite = false) (b : Binary64) :
    (a - b).isFinite = false := by
  cases a with
  | finite negative units => cases infinite
  | infinite negative =>
    cases b with
    | finite negative' units => rfl
    | infinite negative' => cases negative <;> cases negative' <;> rfl
    | nan => rfl
  | nan => rfl

theorem mul_of_infinite {a : Binary64} (infinite : a.isFinite = false) (b : Binary64) :
    (a * b).isFinite = false := by
  cases a with
  | finite negative units => cases infinite
  | infinite negative =>
    cases b with
    | finite negative' units =>
      have product : (.infinite negative * .finite negative' units : Binary64) =
          if units = 0 then .nan else .infinite (negative != negative') := rfl
      rw [product]
      split <;> rfl
    | infinite negative' => rfl
    | nan => rfl
  | nan => rfl

end Binary64

theorem elapsedBetween_self {timestamp : Binary64} (finite : timestamp.isFinite = true) :
    elapsedBetween timestamp timestamp = .ok 0 := by
  obtain ⟨negative, difference⟩ := Binary64.sub_self finite
  have thousand : Binary64.ofInt 1000 = .finite false (1000 * Binary64.one) := by decide +kernel
  have rounded : roundDiv 0 Binary64.one = 0 := by simp [roundDiv]
  have exactly : (Binary64.finite (negative != false) 0).round? = some 0 := by
    cases negative <;> simp [Binary64.round?, rounded, Binary64.signedUnits]
  unfold elapsedBetween
  rw [difference, thousand, Binary64.zero_mul_finite]
  dsimp only
  rw [exactly]
  rfl

theorem elapsedBetween_of_infinite {timestamp : Binary64} (infinite : timestamp.isFinite = false)
    (earlier : Binary64) : ∃ e, elapsedBetween earlier timestamp = .error e := by
  have far := Binary64.mul_of_infinite (Binary64.sub_of_infinite infinite earlier) (Binary64.ofInt 1000)
  unfold elapsedBetween
  cases exact : (timestamp - earlier) * Binary64.ofInt 1000 with
  | finite negative units =>
    rw [exact] at far
    cases far
  | infinite negative => exact ⟨_, rfl⟩
  | nan => exact ⟨_, rfl⟩

namespace Decoder

def decodeAll (d : Decoder) : List Raw → Except ElapsedError (List Event × Decoder)
  | [] => .ok ([], d)
  | raw :: rest => do
    let (events, next) ← d.decode raw
    let (later, last) ← next.decodeAll rest
    return (events ++ later, last)

variable {d next : Decoder} {raw : Raw} {rest before : List Raw} {events past : List Event} {e : ElapsedError}

theorem elapsed_nonneg {timestamp : Binary64} {x : Int} (decoded : d.elapsed timestamp = .ok x) : 0 ≤ x := by
  unfold elapsed at decoded
  split at decoded
  · cases decoded
    exact Int.le_refl 0
  · exact elapsedBetween_nonneg decoded

theorem decode_of_unnamed (unnamed : raw.button? = none) (d : Decoder) : d.decode raw = .ok ([], d) := by
  rw [Raw.button?] at unnamed
  rw [decode, unnamed]

theorem decode_of_named {b : Button} (named : raw.button? = some b) (d : Decoder) :
    d.decode raw = (d.elapsed raw.timestamp).map fun elapsed =>
      (eventsOf b raw.value elapsed, ⟨some raw.timestamp⟩) := by
  rw [Raw.button?] at named
  rw [decode, named]

theorem decode_eq_ok {b : Button} (named : raw.button? = some b) {x : Int}
    (gap : d.elapsed raw.timestamp = .ok x) :
    d.decode raw = .ok (eventsOf b raw.value x, ⟨some raw.timestamp⟩) := by
  rw [decode_of_named named, gap]
  rfl

theorem decode_eq_error {b : Button} (named : raw.button? = some b)
    (failed : d.elapsed raw.timestamp = .error e) : d.decode raw = .error e := by
  rw [decode_of_named named, failed]
  rfl

theorem finite_of_elapsed {timestamp : Binary64} {x : Int} (decoded : d.elapsed timestamp = .ok x)
    (first : d.last = none → timestamp.isFinite = true) : timestamp.isFinite = true := by
  unfold elapsed at decoded
  split at decoded
  · rename_i last
    exact first last
  · rename_i earlier _
    rw [← Bool.not_eq_false]
    intro infinite
    obtain ⟨e, failed⟩ := elapsedBetween_of_infinite infinite earlier
    rw [failed] at decoded
    cases decoded

theorem decodeAll_cons_eq_ok {all : List Event} (decoded : d.decodeAll (raw :: rest) = .ok (all, next)) :
    ∃ events following later, d.decode raw = .ok (events, following) ∧
      following.decodeAll rest = .ok (later, next) ∧ all = events ++ later := by
  obtain ⟨⟨events, following⟩, first, decoded⟩ := bind_eq_ok decoded
  obtain ⟨⟨later, last⟩, read, same⟩ := bind_eq_ok decoded
  cases same
  exact ⟨events, following, later, first, read, rfl⟩

theorem decodeAll_cons_of_ok (decoded : d.decode raw = .ok (events, next)) (rest : List Raw) :
    d.decodeAll (raw :: rest) = (next.decodeAll rest).map fun later => (events ++ later.1, later.2) := by
  rw [decodeAll, decoded]
  cases read : next.decodeAll rest <;> simp [bind, Except.bind, read, Except.map, pure, Except.pure]

theorem decodeAll_cons_of_error (failed : d.decode raw = .error e) (rest : List Raw) :
    d.decodeAll (raw :: rest) = .error e := by
  rw [decodeAll, failed]
  rfl

theorem decodeAll_append_of_ok (decoded : d.decodeAll before = .ok (past, next)) (rest : List Raw) :
    d.decodeAll (before ++ rest) = (next.decodeAll rest).map fun later => (past ++ later.1, later.2) := by
  induction before generalizing d past with
  | nil =>
    cases decoded
    cases read : next.decodeAll rest <;> simp [read, Except.map]
  | cons raw before ih =>
    cases first : d.decode raw with
    | error e =>
      rw [decodeAll_cons_of_error first] at decoded
      cases decoded
    | ok read =>
      rw [decodeAll_cons_of_ok first] at decoded
      obtain ⟨later, readLater, same⟩ := map_eq_ok decoded
      cases same
      rw [List.cons_append, decodeAll_cons_of_ok first, ih readLater]
      cases read : later.2.decodeAll rest <;> simp [Except.map]

theorem decodeAll_append_of_error (failed : d.decodeAll before = .error e) (rest : List Raw) :
    d.decodeAll (before ++ rest) = .error e := by
  induction before generalizing d with
  | nil => cases failed
  | cons raw before ih =>
    cases first : d.decode raw with
    | error other =>
      rw [decodeAll_cons_of_error first] at failed
      rw [List.cons_append, decodeAll_cons_of_error first, failed]
    | ok read =>
      rw [decodeAll_cons_of_ok first] at failed
      rw [List.cons_append, decodeAll_cons_of_ok first, ih (map_eq_error.mp failed)]
      rfl

theorem decodeAll_of_unnamed (unnamed : ∀ raw ∈ before, raw.button? = none) (d : Decoder) :
    d.decodeAll before = .ok ([], d) := by
  induction before with
  | nil => rfl
  | cons raw before ih =>
    obtain ⟨first, later⟩ := List.forall_mem_cons.mp unnamed
    rw [decodeAll_cons_of_ok (decode_of_unnamed first d), ih later]
    rfl

theorem decodeAll_of_unnamed_before (unnamed : ∀ raw ∈ before, raw.button? = none) {b : Button}
    (named : raw.button? = some b) {timestamp : Binary64} {x : Int}
    (gap : elapsedBetween timestamp raw.timestamp = .ok x) :
    decodeAll ⟨some timestamp⟩ (before ++ [raw]) = .ok (eventsOf b raw.value x, ⟨some raw.timestamp⟩) := by
  have read : decode ⟨some timestamp⟩ raw = .ok (eventsOf b raw.value x, ⟨some raw.timestamp⟩) :=
    decode_eq_ok named gap
  rw [decodeAll_append_of_ok (decodeAll_of_unnamed unnamed _), decodeAll_cons_of_ok read]
  simp [decodeAll, Except.map]

theorem first_of_decodeAll {timestamp : Binary64} {first : Event}
    (decoded : decodeAll ⟨some timestamp⟩ rest = .ok (first :: events, next)) :
    ∃ raw, rest.find? (·.button?.isSome) = some raw ∧ raw.button? = some first.button ∧
      elapsedBetween timestamp raw.timestamp = .ok first.elapsed ∧ (first.edge = .press → raw.value ≠ some 0) := by
  induction rest with
  | nil => cases decoded
  | cons raw rest ih =>
    obtain ⟨here, following, later, read, readLater, same⟩ := decodeAll_cons_eq_ok decoded
    cases named : raw.button? with
    | none =>
      rw [decode_of_unnamed named] at read
      cases read
      obtain rfl : later = first :: events := same.symm
      obtain ⟨found, there, about⟩ := ih readLater
      exact ⟨found, by rw [List.find?_cons_of_neg (by simp [named]), there], about⟩
    | some b =>
      refine ⟨raw, List.find?_cons_of_pos (by simp [named]), ?_⟩
      rw [decode_of_named named] at read
      obtain ⟨y, gap, same'⟩ := map_eq_ok read
      cases same'
      cases value : raw.value with
      | none =>
        rw [value] at same
        cases same
        exact ⟨named, gap, fun _ => nofun⟩
      | some level =>
        rw [value] at same
        cases same
        refine ⟨named, gap, ?_⟩
        rintro press ⟨⟩
        cases press

end Decoder

end Gesture
