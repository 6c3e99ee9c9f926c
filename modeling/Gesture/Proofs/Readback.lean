import Gesture.Binary64.Decimal
import Mathlib.Tactic.Ring

namespace Gesture

section

variable {num den n : Nat}

theorem roundDiv_le (below : num ≤ n * den) : roundDiv num den ≤ n := by
  rcases Nat.eq_zero_or_pos den with rfl | pos
  · simp_all [roundDiv]
  have whole := Nat.div_add_mod num den
  have rest := Nat.mod_lt num pos
  have le : num / den ≤ n := Nat.div_le_of_le_mul (by rwa [Nat.mul_comm])
  unfold roundDiv
  dsimp only
  rcases Nat.lt_or_eq_of_le le with less | rfl
  · split
    · omega
    · split
      · omega
      · split <;> omega
  · have none : num % den = 0 := by
      have : num / den * den = den * (num / den) := Nat.mul_comm _ _
      omega
    simp [none, pos]

theorem le_roundDiv (pos : 0 < den) (above : n * den ≤ num) : n ≤ roundDiv num den := by
  have le : n ≤ num / den := (Nat.le_div_iff_mul_le pos).mpr above
  unfold roundDiv
  dsimp only
  split
  · exact le
  · split
    · omega
    · split <;> omega

theorem roundDiv_mul (pos : 0 < den) : roundDiv (n * den) den = n :=
  Nat.le_antisymm (roundDiv_le le_rfl) (le_roundDiv pos le_rfl)

theorem roundDiv_near (pos : 0 < den) :
    2 * (roundDiv num den * den) ≤ 2 * num + den ∧ 2 * num ≤ 2 * (roundDiv num den * den) + den := by
  have whole := Nat.div_add_mod' num den
  have rest := Nat.mod_lt num pos
  have next : (num / den + 1) * den = num / den * den + den := Nat.succ_mul _ _
  unfold roundDiv
  dsimp only
  split
  · omega
  · split
    · omega
    · split <;> omega

theorem roundDiv_scale {c : Nat} (pos : 0 < c) : roundDiv (c * num) (c * den) = roundDiv num den := by
  unfold roundDiv
  dsimp only
  rw [Nat.mul_div_mul_left _ _ pos, Nat.mul_mod_mul_left, Nat.mul_left_comm 2 c]
  simp only [Nat.mul_lt_mul_left pos]
end

namespace Binary64

def gridAt (num den : Nat) : Nat :=
  2 ^ ((num / den).log2 - 52)

theorem nearest_eq (num den : Nat) :
    nearest num den = roundDiv num (den * gridAt num den) * gridAt num den := rfl

theorem gridAt_pos (num den : Nat) : 0 < gridAt num den :=
  Nat.two_pow_pos _

section

variable {num den level : Nat}

theorem nearest_scale {c : Nat} (pos : 0 < c) : nearest (c * num) (c * den) = nearest num den := by
  have grid : gridAt (c * num) (c * den) = gridAt num den := by
    rw [gridAt, gridAt, Nat.mul_div_mul_left _ _ pos]
  rw [nearest_eq, nearest_eq, grid, Nat.mul_assoc, roundDiv_scale pos]

theorem nearest_eq_of_cross {num' den' : Nat} (pos : 0 < den) (pos' : 0 < den')
    (same : num * den' = num' * den) : nearest num den = nearest num' den' := by
  calc nearest num den = nearest (den' * num) (den' * den) := (nearest_scale pos').symm
    _ = nearest (den * num') (den * den') := by
      rw [Nat.mul_comm den' num, same, Nat.mul_comm num', Nat.mul_comm den' den]
    _ = nearest num' den' := nearest_scale pos

theorem log2_le (pos : 0 < den) (below : num < 2 ^ (level + 1) * den) : (num / den).log2 ≤ level := by
  have less : num / den < 2 ^ (level + 1) := (Nat.div_lt_iff_lt_mul pos).mpr below
  by_cases none : num / den = 0
  · simp [none]
  · exact Nat.le_of_lt_succ ((Nat.log2_lt none).mpr less)

theorem nearest_le (pos : 0 < den) (below : num ≤ 2 ^ level * den) : nearest num den ≤ 2 ^ level := by
  have twice : num < 2 ^ (level + 1) * den :=
    Nat.lt_of_le_of_lt below (Nat.mul_lt_mul_of_pos_right (Nat.pow_lt_pow_succ (by decide)) pos)
  have log := log2_le pos twice
  obtain ⟨steps, whole⟩ : gridAt num den ∣ 2 ^ level := Nat.pow_dvd_pow 2 (by omega)
  rw [nearest_eq, whole, Nat.mul_comm]
  refine Nat.mul_le_mul_left _ (roundDiv_le ?_)
  calc num ≤ 2 ^ level * den := below
    _ = steps * (den * gridAt num den) := by rw [whole]; ring

theorem le_nearest (pos : 0 < den) (above : 2 ^ level * den ≤ num) : 2 ^ level ≤ nearest num den := by
  have le : 2 ^ level ≤ num / den := (Nat.le_div_iff_mul_le pos).mpr above
  have some : num / den ≠ 0 := by
    have := Nat.two_pow_pos level
    omega
  have log : level ≤ (num / den).log2 := (Nat.le_log2 some).mpr le
  have top : 2 ^ (num / den).log2 * den ≤ num := (Nat.le_div_iff_mul_le pos).mp (Nat.log2_self_le some)
  have whole : 2 ^ (num / den).log2 = 2 ^ ((num / den).log2 - ((num / den).log2 - 52)) * gridAt num den := by
    rw [gridAt, ← Nat.pow_add]
    congr 1
    omega
  calc 2 ^ level ≤ 2 ^ (num / den).log2 := Nat.pow_le_pow_right (by decide) log
    _ = 2 ^ ((num / den).log2 - ((num / den).log2 - 52)) * gridAt num den := whole
    _ ≤ nearest num den := by
      rw [nearest_eq]
      refine Nat.mul_le_mul_right _ (le_roundDiv (Nat.mul_pos pos (gridAt_pos num den)) ?_)
      calc _ = 2 ^ (num / den).log2 * den := by rw [whole]; ring
        _ ≤ num := top

theorem nearest_near (pos : 0 < den) (below : num < 2 ^ (level + 1) * den) :
    2 * (nearest num den * den) ≤ 2 * num + den * 2 ^ (level - 52) ∧
      2 * num ≤ 2 * (nearest num den * den) + den * 2 ^ (level - 52) := by
  have log := log2_le pos below
  have grid : gridAt num den ≤ 2 ^ (level - 52) := Nat.pow_le_pow_right (by decide) (by omega)
  have step := Nat.mul_pos pos (gridAt_pos num den)
  obtain ⟨low, high⟩ : 2 * (roundDiv num (den * gridAt num den) * (den * gridAt num den)) ≤
        2 * num + den * gridAt num den ∧
      2 * num ≤ 2 * (roundDiv num (den * gridAt num den) * (den * gridAt num den)) + den * gridAt num den :=
    roundDiv_near step
  have same : roundDiv num (den * gridAt num den) * (den * gridAt num den) = nearest num den * den := by
    rw [nearest_eq]
    ring
  have half : den * gridAt num den ≤ den * 2 ^ (level - 52) := Nat.mul_le_mul_left _ grid
  rw [same] at low high
  omega

end

theorem exists_place : ∃ place, 52 ≤ place ∧ one = 2 ^ place := by
  refine ⟨1074, by decide, ?_⟩
  unfold one
  generalize 1074 = place
  rfl

theorem one_pos : 0 < one := by
  obtain ⟨place, _, same⟩ := exists_place
  exact same ▸ Nat.two_pow_pos place

section

variable {m n den : Nat}

theorem nearest_whole (pos : 0 < den) (small : n < 2 ^ 53) : nearest (n * den * one) den = n * one := by
  obtain ⟨place, large, same⟩ := exists_place
  have below : n * den * one < 2 ^ (52 + place + 1) * den := by
    calc n * den * one = n * one * den := by ring
      _ < 2 ^ 53 * one * den := Nat.mul_lt_mul_of_pos_right (Nat.mul_lt_mul_of_pos_right small one_pos) pos
      _ = 2 ^ (52 + place + 1) * den := by rw [same]; ring
  have log := log2_le pos below
  obtain ⟨steps, whole⟩ : gridAt (n * den * one) den ∣ one := by
    have exponent : (n * den * one / den).log2 - 52 ≤ place := by omega
    exact (Nat.pow_dvd_pow 2 exponent).trans (dvd_of_eq same.symm)
  have some := gridAt_pos (n * den * one) den
  rw [nearest_eq]
  generalize gridAt (n * den * one) den = grid at whole some ⊢
  have multiple : n * den * one = n * steps * (den * grid) := by
    rw [whole]
    ring
  rw [multiple, roundDiv_mul (Nat.mul_pos pos some), whole]
  ring

theorem nearest_one_near (pos : 0 < den) (small : m < 2 ^ 33 * den) :
    2 ^ 21 * (nearest (m * one) den * den) ≤ 2 ^ 21 * (m * one) + den * one ∧
      2 ^ 21 * (m * one) ≤ 2 ^ 21 * (nearest (m * one) den * den) + den * one := by
  obtain ⟨place, large, same⟩ := exists_place
  have below : m * one < 2 ^ (32 + place + 1) * den := by
    calc m * one < 2 ^ 33 * den * one := Nat.mul_lt_mul_of_pos_right small one_pos
      _ = 2 ^ (32 + place + 1) * den := by rw [same]; ring
  obtain ⟨low, high⟩ := nearest_near pos below
  have gap : 2 ^ 20 * (den * 2 ^ (32 + place - 52)) = den * one := by
    have sum : 20 + (32 + place - 52) = place := by omega
    rw [same, ← congrArg (2 ^ ·) sum, Nat.pow_add]
    ring
  omega

theorem nearest_inj (pos : 0 < den) (few : den < 2 ^ 20) (small : m < 2 ^ 33 * den) (small' : n < 2 ^ 33 * den)
    (same : nearest (m * one) den = nearest (n * one) den) : m = n := by
  obtain ⟨low, high⟩ := nearest_one_near pos small
  obtain ⟨low', high'⟩ := nearest_one_near pos small'
  have gap : den * one < 2 ^ 20 * one := Nat.mul_lt_mul_of_pos_right few one_pos
  rw [same] at low high
  have less : m * one < (n + 1) * one := by
    rw [Nat.succ_mul]
    omega
  have less' : n * one < (m + 1) * one := by
    rw [Nat.succ_mul]
    omega
  have le := Nat.lt_of_mul_lt_mul_right less
  have le' := Nat.lt_of_mul_lt_mul_right less'
  omega

theorem nearest_mod_one (pos : 0 < den) (few : den < 2 ^ 20) (small : m < 2 ^ 33 * den) :
    nearest (m * one) den % one = 0 ↔ den ∣ m := by
  constructor
  · intro whole
    obtain ⟨n, same⟩ := Nat.dvd_of_mod_eq_zero whole
    obtain ⟨low, high⟩ := nearest_one_near pos small
    have gap : den * one < 2 ^ 20 * one := Nat.mul_lt_mul_of_pos_right few one_pos
    have multiple : one * n * den = den * n * one := by ring
    rw [same, multiple] at low high
    have less : m * one < (den * n + 1) * one := by
      rw [Nat.succ_mul]
      omega
    have less' : den * n * one < (m + 1) * one := by
      rw [Nat.succ_mul]
      omega
    have le := Nat.lt_of_mul_lt_mul_right less
    have le' := Nat.lt_of_mul_lt_mul_right less'
    exact ⟨n, by omega⟩
  · rintro ⟨n, rfl⟩
    have small : n < 2 ^ 53 := by
      have := Nat.lt_of_mul_lt_mul_left (Nat.mul_comm (2 ^ 33) den ▸ small)
      omega
    rw [Nat.mul_comm den n, nearest_whole pos small, Nat.mul_mod_left]

end

theorem digitCount_le {n count : Nat} (some : 0 < count) (below : n < 10 ^ count) : digitCount n ≤ count := by
  induction count generalizing n with
  | zero => cases some
  | succ count ih =>
    unfold digitCount
    split
    · omega
    · rename_i large
      have below' : n / 10 < 10 ^ count := by
        rw [Nat.pow_succ] at below
        omega
      have positive : 0 < count := by
        rcases Nat.eq_zero_or_pos count with rfl | positive
        · omega
        · exact positive
      have le := ih positive below'
      omega

theorem lt_digitCount {n count : Nat} (above : 10 ^ count ≤ n) : count < digitCount n := by
  induction count generalizing n with
  | zero =>
    unfold digitCount
    split <;> omega
  | succ count ih =>
    have above' : 10 ^ count ≤ n / 10 := by
      rw [Nat.pow_succ] at above
      omega
    have le := ih above'
    have large : ¬n < 10 := by
      have positive := Nat.pow_pos (n := count) (show 0 < 10 by decide)
      omega
    rw [digitCount, dif_neg large]
    omega

theorem units_of_onGrid? {units : Nat} {exponent : Int} {d : Decimal} (found : onGrid? units exponent = some d) :
    d.units = units ∧ d.exponent = exponent := by
  unfold onGrid? at found
  dsimp only at found
  split at found
  · rename_i hits
    simp only [Bool.and_eq_true, beq_iff_eq] at hits
    split at found
    · cases found
      exact ⟨hits.1, rfl⟩
    · split at found
      · cases found
        exact ⟨hits.2, rfl⟩
      · cases found
        split
        · exact ⟨hits.1, rfl⟩
        · exact ⟨hits.2, rfl⟩
  · split at found
    · rename_i hit
      cases found
      exact ⟨by simpa using hit, rfl⟩
    · split at found
      · rename_i hit
        cases found
        exact ⟨by simpa using hit, rfl⟩
      · cases found

theorem onGrid?_ne_none {units digits : Nat} {exponent : Int} (hit : Decimal.units ⟨digits, exponent⟩ = units)
    (beside : units * Decimal.den ⟨1, exponent⟩ / (Decimal.num ⟨1, exponent⟩ * one) = digits ∨
      units * Decimal.den ⟨1, exponent⟩ / (Decimal.num ⟨1, exponent⟩ * one) + 1 = digits) :
    onGrid? units exponent ≠ none := by
  unfold onGrid?
  dsimp only
  rw [← beq_iff_eq] at hit
  rcases beside with same | same <;> rw [same, hit]
  · split
    · split
      · exact Option.some_ne_none _
      · split <;> exact Option.some_ne_none _
    · exact Option.some_ne_none _
  · split
    · split
      · exact Option.some_ne_none _
      · split <;> exact Option.some_ne_none _
    · split
      · exact Option.some_ne_none _
      · exact Option.some_ne_none _

/-- What is found first is found on some grid, which is no finer than one where something is found. -/
theorem shortestFrom_hits {hits : Int → Option Decimal} {lead finest : Int} {count more : Nat}
    (coarse : finest ≤ lead - count + 1) (fine : lead - (count + more) + 1 < finest)
    (found : hits finest ≠ none) :
    ∃ exponent, finest ≤ exponent ∧ hits exponent = some (shortestFrom hits lead count more) := by
  induction more generalizing count with
  | zero => omega
  | succ more ih =>
    unfold shortestFrom
    split
    · rename_i d here
      exact ⟨_, coarse, here⟩
    · rename_i none
      have other : finest ≠ lead - count + 1 := by
        rintro rfl
        exact found none
      exact ih (by omega) (by omega)

section

variable {m places : Nat}

theorem nearest_bounds {den : Nat} (pos : 0 < den) (above : den ≤ m) (small : m < 2 ^ 33 * den) :
    one ≤ nearest (m * one) den ∧ nearest (m * one) den ≤ 2 ^ 33 * one := by
  obtain ⟨place, _, same⟩ := exists_place
  constructor
  · have low : 2 ^ place * den ≤ m * one := by
      rw [← same, Nat.mul_comm]
      exact Nat.mul_le_mul_right _ above
    have le := le_nearest pos low
    rwa [← same] at le
  · have high : m * one ≤ 2 ^ (33 + place) * den := by
      calc m * one ≤ 2 ^ 33 * den * one := Nat.mul_le_mul_right _ small.le
        _ = 2 ^ (33 + place) * den := by rw [same]; ring
    have le := nearest_le pos high
    rwa [pow_add, ← same] at le

theorem le_nearest_of_large {den : Nat} (pos : 0 < den) (large : 2 ^ 33 * den ≤ m) :
    2 ^ 33 * one ≤ nearest (m * one) den := by
  obtain ⟨place, _, same⟩ := exists_place
  have low : 2 ^ (33 + place) * den ≤ m * one := by
    calc 2 ^ (33 + place) * den = 2 ^ 33 * den * one := by rw [same]; ring
      _ ≤ m * one := Nat.mul_le_mul_right _ large
  have le := le_nearest pos low
  rwa [pow_add, ← same] at le

theorem digitCount_scaled {units : Nat} (scale : Nat) (low : one ≤ units) (high : units ≤ 2 ^ 33 * one) :
    scale < digitCount (units * Nat.pow 10 scale / one) ∧
      digitCount (units * Nat.pow 10 scale / one) ≤ scale + 10 := by
  rw [Nat.pow_eq]
  constructor
  · refine lt_digitCount ((Nat.le_div_iff_mul_le one_pos).mpr ?_)
    rw [Nat.mul_comm]
    exact Nat.mul_le_mul_right _ low
  · refine digitCount_le (by omega) ((Nat.div_lt_iff_lt_mul one_pos).mpr ?_)
    calc units * 10 ^ scale ≤ 2 ^ 33 * one * 10 ^ scale := Nat.mul_le_mul_right _ high
      _ = 2 ^ 33 * (10 ^ scale * one) := by ring
      _ < 10 ^ 10 * (10 ^ scale * one) :=
        Nat.mul_lt_mul_of_pos_right (by decide) (Nat.mul_pos (Nat.pow_pos (by decide)) one_pos)
      _ = 10 ^ (scale + 10) * one := by ring

theorem leadingExponent_bounds {units : Nat} (low : one ≤ units) (high : units ≤ 2 ^ 33 * one) :
    0 ≤ leadingExponent units ∧ leadingExponent units ≤ 9 := by
  have next : (331 : Int) = (330 : Nat) + 1 := rfl
  rw [leadingExponent, next]
  generalize 330 = scale
  have bounds := digitCount_scaled scale low high
  omega

theorem shortest_hits {units : Nat} (few : places ≤ 6) (low : one ≤ units) (high : units ≤ 2 ^ 33 * one)
    (found : onGrid? units (-places) ≠ none) :
    ∃ exponent, -(places : Int) ≤ exponent ∧ onGrid? units exponent = some (shortest units) := by
  have bounds := leadingExponent_bounds low high
  rw [shortest]
  generalize leadingExponent units = lead at bounds ⊢
  generalize onGrid? units = hits at found ⊢
  exact shortestFrom_hits (by omega) (by omega) found

theorem beside_quotient {den : Nat} (pos : 0 < den) (few : den < 2 ^ 20) (small : m < 2 ^ 33 * den) :
    nearest (m * one) den * den / one = m ∨ nearest (m * one) den * den / one + 1 = m := by
  obtain ⟨low, high⟩ := nearest_one_near pos small
  have gap : den * one < 2 ^ 20 * one := Nat.mul_lt_mul_of_pos_right few one_pos
  generalize nearest (m * one) den * den = product at low high ⊢
  have whole := Nat.div_add_mod' product one
  have rest := Nat.mod_lt product one_pos
  have above : product / one * one < (m + 1) * one := by
    rw [Nat.succ_mul]
    omega
  have below : m * one < (product / one + 2) * one := by
    rw [Nat.add_mul]
    omega
  have le := Nat.lt_of_mul_lt_mul_right above
  have le' := Nat.lt_of_mul_lt_mul_right below
  omega

theorem Decimal.num_of_places {d : Decimal} (exponent : d.exponent = -(places : Int)) : d.num = d.digits := by
  have zero : (-(places : Int)).toNat = 0 := by omega
  rw [Decimal.num, exponent, zero, Nat.pow_eq, pow_zero, Nat.mul_one]

theorem Decimal.den_of_places {d : Decimal} (exponent : d.exponent = -(places : Int)) : d.den = 10 ^ places := by
  rw [Decimal.den, exponent, neg_neg, Int.toNat_natCast, Nat.pow_eq]

theorem Decimal.exists_quotient {d : Decimal} (coarse : -(places : Int) ≤ d.exponent) :
    ∃ n, d.num * 10 ^ places = n * d.den := by
  refine ⟨d.num * 10 ^ (places - (-d.exponent).toNat), ?_⟩
  have sum : places - (-d.exponent).toNat + (-d.exponent).toNat = places := by omega
  rw [Decimal.den, Nat.pow_eq, Nat.mul_assoc, ← Nat.pow_add, sum]

theorem ten_pow_pos (places : Nat) : 0 < 10 ^ places :=
  Nat.pow_pos (by decide)

theorem ten_pow_lt (few : places ≤ 6) : 10 ^ places < 2 ^ 20 :=
  Nat.lt_of_le_of_lt (Nat.pow_le_pow_right (by decide) few) (by decide)

theorem quotient_of_units (few : places ≤ 6) (above : 10 ^ places ≤ m) (small : m < 2 ^ 33 * 10 ^ places)
    (part : ¬10 ^ places ∣ m) {d : Decimal} (reads : d.units = nearest (m * one) (10 ^ places))
    (coarse : -(places : Int) ≤ d.exponent) : d.num * 10 ^ places = m * d.den := by
  have pos := ten_pow_pos places
  have fine := ten_pow_lt few
  obtain ⟨n, quotient⟩ := Decimal.exists_quotient coarse
  have reads : nearest (n * one) (10 ^ places) = nearest (m * one) (10 ^ places) := by
    rw [← reads, Decimal.units]
    refine nearest_eq_of_cross pos (Nat.pow_pos (by decide)) ?_
    calc n * one * d.den = n * d.den * one := by ring
      _ = d.num * one * 10 ^ places := by rw [← quotient]; ring
  have small' : n < 2 ^ 33 * 10 ^ places := by
    -- At the bound and above it the nearest number would be at the bound or above, and the only one is whole.
    by_contra large
    have low := le_nearest_of_large pos (Nat.le_of_not_lt large)
    have high := (nearest_bounds pos above small).2
    rw [reads] at low
    have same := Nat.le_antisymm high low
    refine part ((nearest_mod_one pos fine small).mp ?_)
    rw [same, Nat.mul_mod_left]
  rwa [nearest_inj pos fine small' small reads] at quotient

theorem shortest_quotient (few : places ≤ 6) (above : 10 ^ places ≤ m) (small : m < 2 ^ 33 * 10 ^ places)
    (part : ¬10 ^ places ∣ m) :
    ∃ d, shortest (nearest (m * one) (10 ^ places)) = d ∧ d.num * 10 ^ places = m * d.den := by
  have pos := ten_pow_pos places
  obtain ⟨low, high⟩ := nearest_bounds pos above small
  have beside := beside_quotient pos (ten_pow_lt few) small
  have found : onGrid? (nearest (m * one) (10 ^ places)) (-places) ≠ none := by
    have reads : Decimal.units ⟨m, -places⟩ = nearest (m * one) (10 ^ places) := by
      rw [Decimal.units, Decimal.num_of_places rfl, Decimal.den_of_places rfl]
    refine onGrid?_ne_none reads ?_
    rwa [Decimal.num_of_places rfl, Decimal.den_of_places rfl, Nat.one_mul]
  obtain ⟨exponent, coarse, hits⟩ := shortest_hits few low high found
  obtain ⟨reads, same⟩ := units_of_onGrid? hits
  exact ⟨_, rfl, quotient_of_units few above small part reads (coarse.trans (le_of_eq same.symm))⟩

end

end Binary64

end Gesture
