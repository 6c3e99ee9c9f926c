import Gesture.Proofs.DurationLanguage
import Gesture.Proofs.Readback
import Mathlib.Data.List.DropRight

namespace Gesture

namespace Text

theorem digitValue?_digit {value : Nat} (small : value < 10) :
    digitValue? (Char.ofNat (0x30 + value)) = some value := by
  revert value
  decide

theorem isDigit_digit {value : Nat} (small : value < 10) : isDigit (Char.ofNat (0x30 + value)) = true := by
  revert value
  decide

theorem decimalValue_concat (digits : List Char) (value : Nat) (small : value < 10) :
    decimalValue (digits ++ [Char.ofNat (0x30 + value)]) = 10 * decimalValue digits + value := by
  simp [decimalValue, List.foldl_append, digitValue?_digit small]

theorem decimalValue_zeros (digits : List Char) (count : Nat) :
    decimalValue (digits ++ List.replicate count '0') = decimalValue digits * 10 ^ count := by
  induction count with
  | zero => simp
  | succ count ih =>
    have last := decimalValue_concat (digits ++ List.replicate count '0') 0 (by decide)
    rw [List.replicate_succ', ← List.append_assoc, pow_succ]
    rw [ih] at last
    exact last.trans (by ring)

end Text

namespace Binary64

theorem length_digitsOf (n : Nat) : (digitsOf n).length = digitCount n := by
  fun_induction digitsOf n with
  | case1 n small => rw [digitCount, dif_pos small, List.length_singleton]
  | case2 n large ih => rw [digitCount, dif_neg large, List.length_append, ih, List.length_singleton]

theorem digitsOf_ne_nil (n : Nat) : digitsOf n ≠ [] := by
  unfold digitsOf
  split <;> simp

theorem isDigit_digitsOf (n : Nat) : ∀ c ∈ digitsOf n, Text.isDigit c = true := by
  fun_induction digitsOf n with
  | case1 n small => simpa using Text.isDigit_digit small
  | case2 n large ih =>
    rw [List.forall_mem_append, List.forall_mem_singleton]
    exact ⟨ih, Text.isDigit_digit (Nat.mod_lt n (by decide))⟩

theorem decimalValue_digitsOf (n : Nat) : Text.decimalValue (digitsOf n) = n := by
  fun_induction digitsOf n with
  | case1 n small => exact (Text.decimalValue_concat [] n small).trans (by simp [Text.decimalValue])
  | case2 n large ih =>
    rw [Text.decimalValue_concat _ _ (Nat.mod_lt n (by decide)), ih]
    omega

theorem dropTrailingZeros_append {digits : List Char} (some : Text.decimalValue digits ≠ 0) :
    ∃ zeros, digits = dropTrailingZeros digits ++ List.replicate zeros '0' := by
  have zeros : digits.rtakeWhile (· == '0') = List.replicate (digits.rtakeWhile (· == '0')).length '0' := by
    refine List.eq_replicate_of_mem fun c member => ?_
    simpa using List.mem_rtakeWhile_imp member
  have parted : digits.rdropWhile (· == '0') ++ digits.rtakeWhile (· == '0') = digits :=
    List.rdropWhile_append_rtakeWhile
  have kept : dropTrailingZeros digits = digits.rdropWhile (· == '0') := by
    unfold dropTrailingZeros
    split
    · rename_i none
      change digits.rdropWhile (· == '0') = [] at none
      rw [none, zeros] at parted
      rw [← parted, Text.decimalValue_zeros] at some
      simp [Text.decimalValue] at some
    · rfl
  exact ⟨_, by rw [kept, ← zeros, parted]⟩

theorem layout_point (digits : List Char) (lead : Int) (low : 0 ≤ lead) (high : lead < 16)
    (longer : lead.toNat + 1 < digits.length) :
    layout digits lead = digits.take (lead.toNat + 1) ++ '.' :: digits.drop (lead.toNat + 1) := by
  have small : ¬(lead < -4 ∨ 16 ≤ lead) := by omega
  have none : lead.toNat + 1 - digits.length = 0 := by omega
  unfold layout
  rw [if_neg small, if_neg (by omega)]
  dsimp only
  rw [none, List.replicate_zero, List.append_nil]
  split
  · rename_i short
    rw [List.drop_eq_nil_iff] at short
    omega
  · rfl

section

variable {m places : Nat}

theorem digitCount_quotient {n q : Nat} (above : 10 ^ places ≤ m) (small : m < 2 ^ 33 * 10 ^ places)
    (quotient : n * 10 ^ places = m * 10 ^ q) : q < digitCount n ∧ digitCount n ≤ q + 10 := by
  have pos := ten_pow_pos places
  constructor
  · refine lt_digitCount (Nat.le_of_mul_le_mul_right ?_ pos)
    rw [quotient, Nat.mul_comm]
    exact Nat.mul_le_mul_right _ above
  · refine digitCount_le (by omega) (Nat.lt_of_mul_lt_mul_right (a := 10 ^ places) ?_)
    calc n * 10 ^ places = m * 10 ^ q := quotient
      _ < 2 ^ 33 * 10 ^ places * 10 ^ q := Nat.mul_lt_mul_of_pos_right small (ten_pow_pos q)
      _ = 2 ^ 33 * (10 ^ q * 10 ^ places) := by ring
      _ ≤ 10 ^ 10 * (10 ^ q * 10 ^ places) := Nat.mul_le_mul_right _ (by decide)
      _ = 10 ^ (q + 10) * 10 ^ places := by ring

theorem quotient_of_zeros {n q zeros : Nat} (part : ¬10 ^ places ∣ m)
    (quotient : n * 10 ^ zeros * 10 ^ places = m * 10 ^ q) :
    zeros < q ∧ n * 10 ^ places = m * 10 ^ (q - zeros) := by
  rcases Nat.lt_or_ge zeros q with fewer | more
  · refine ⟨fewer, Nat.eq_of_mul_eq_mul_right (ten_pow_pos zeros) ?_⟩
    calc n * 10 ^ places * 10 ^ zeros = n * 10 ^ zeros * 10 ^ places := by ring
      _ = m * 10 ^ (q - zeros + zeros) := by rw [quotient, Nat.sub_add_cancel fewer.le]
      _ = m * 10 ^ (q - zeros) * 10 ^ zeros := by ring
  · refine absurd ⟨n * 10 ^ (zeros - q), Nat.eq_of_mul_eq_mul_right (ten_pow_pos q) ?_⟩ part
    calc m * 10 ^ q = n * 10 ^ (zeros - q + q) * 10 ^ places := by rw [Nat.sub_add_cancel more, quotient]
      _ = 10 ^ places * (n * 10 ^ (zeros - q)) * 10 ^ q := by ring

theorem Decimal.exponent_of_part {d : Decimal} (part : ¬10 ^ places ∣ m)
    (quotient : d.num * 10 ^ places = m * d.den) : ∃ q : Nat, d.exponent = -(q : Int) := by
  have below : d.exponent < 0 := by
    by_contra whole
    have none : (-d.exponent).toNat = 0 := by omega
    rw [Decimal.den, none, Nat.pow_eq, pow_zero, Nat.mul_one] at quotient
    exact part ⟨d.num, by rw [← quotient, Nat.mul_comm]⟩
  exact ⟨d.exponent.natAbs, by omega⟩

/-- The point stands before the last `q` of some digits, also when zeros at their end are left out. -/
theorem layout_behind (kept : List Char) {zeros q : Nat} (behind : zeros < q)
    (longer : q < kept.length + zeros) (notLong : kept.length + zeros ≤ q + 10) :
    ∃ whole fraction, layout kept (-(q : Int) + ((kept.length + zeros : Nat) : Int) - 1) =
        whole ++ '.' :: fraction ∧
      whole ++ fraction = kept ∧ whole ≠ [] ∧ fraction.length = q - zeros := by
  let before := kept.length + zeros - q
  have lead : (-(q : Int) + ((kept.length + zeros : Nat) : Int) - 1).toNat + 1 = before := by omega
  have point := layout_point kept (-(q : Int) + ((kept.length + zeros : Nat) : Int) - 1) (by omega)
    (by omega) (by omega)
  rw [lead] at point
  have some : (kept.take before).length = before := List.length_take_of_le (by omega)
  refine ⟨_, _, point, List.take_append_drop before kept, ?_, ?_⟩
  · intro none
    rw [none, List.length_nil] at some
    omega
  · rw [List.length_drop]
    omega

theorem unitsText_quotient (few : places ≤ 6) (above : 10 ^ places ≤ m) (small : m < 2 ^ 33 * 10 ^ places)
    (part : ¬10 ^ places ∣ m) :
    ∃ whole fraction, unitsText (nearest (m * one) (10 ^ places)) = whole ++ '.' :: fraction ∧ whole ≠ [] ∧
      (∀ c ∈ whole ++ fraction, Text.isDigit c = true) ∧
      Text.decimalValue (whole ++ fraction) * 10 ^ places = m * 10 ^ fraction.length := by
  have pos := ten_pow_pos places
  obtain ⟨d, short, quotient⟩ := shortest_quotient few above small part
  have some : nearest (m * one) (10 ^ places) ≠ 0 :=
    Nat.ne_of_gt (Nat.lt_of_lt_of_le one_pos (nearest_bounds pos above small).1)
  obtain ⟨q, exponent⟩ := Decimal.exponent_of_part part quotient
  rw [Decimal.num_of_places exponent, Decimal.den_of_places exponent] at quotient
  obtain ⟨longer, notLong⟩ := digitCount_quotient above small quotient
  rw [← length_digitsOf] at longer notLong
  have text : unitsText (nearest (m * one) (10 ^ places)) =
      layout (dropTrailingZeros (digitsOf d.digits)) (-(q : Int) + (digitsOf d.digits).length - 1) := by
    rw [unitsText, if_neg some, short, ← exponent]
  have digits := isDigit_digitsOf d.digits
  have value := decimalValue_digitsOf d.digits
  have positive : Text.decimalValue (digitsOf d.digits) ≠ 0 := by
    intro zero
    rw [← value, zero, Nat.zero_mul] at quotient
    have one_le : 0 < m * 10 ^ q := Nat.mul_pos (Nat.lt_of_lt_of_le pos above) (ten_pow_pos q)
    omega
  -- The text leaves out the zeros at the end. As the number is not whole, they are all behind the point.
  obtain ⟨zeros, parted⟩ := dropTrailingZeros_append positive
  generalize dropTrailingZeros (digitsOf d.digits) = kept at text parted
  generalize digitsOf d.digits = all at text digits value longer notLong parted
  subst parted
  rw [Text.decimalValue_zeros] at value
  rw [← value] at quotient
  obtain ⟨behind, quotient⟩ := quotient_of_zeros part quotient
  rw [List.length_append, List.length_replicate] at text longer notLong
  obtain ⟨whole, fraction, point, rfl, some, length⟩ := layout_behind kept behind longer notLong
  refine ⟨whole, fraction, text.trans point, some, ?_, by rw [length, quotient]⟩
  exact fun c member => digits c (List.mem_append_left _ member)

end

theorem exists_range : ∃ range, 53 < range ∧ limit = 2 ^ range * one := by
  refine ⟨1024, by decide, ?_⟩
  unfold limit one
  have sum : 2098 = 1024 + 1074 := rfl
  generalize 2098 = top at sum ⊢
  generalize 1074 = place at sum ⊢
  rw [sum]
  exact pow_add 2 1024 place

theorem lt_limit {units : Nat} (small : units ≤ 2 ^ 53 * one) : units < limit := by
  obtain ⟨range, larger, same⟩ := exists_range
  rw [same]
  exact Nat.lt_of_le_of_lt small
    (Nat.mul_lt_mul_of_pos_right (Nat.pow_lt_pow_right (by decide) larger) one_pos)

theorem ofRatio_eq_finite {m den : Nat} (small : nearest (m * one) den ≤ 2 ^ 53 * one) :
    ofRatio false m den = .finite false (nearest (m * one) den) := by
  unfold ofRatio ofUnits
  dsimp only
  rw [if_pos (lt_limit small)]

end Binary64

namespace Duration

open Binary64

theorem numberText_finite (units : Nat) :
    numberText (.finite false units) = if units % one = 0 then digitsOf (units / one) else unitsText units := by
  have same : toInt? (.finite false units) = if units % one = 0 then some ((units / one : Nat) : Int) else none := by
    unfold toInt?
    generalize one = o
    rfl
  unfold numberText
  rw [same]
  by_cases whole : units % one = 0
  · rw [if_pos whole, if_pos whole]
    dsimp only
    rw [if_neg (Int.not_lt.mpr (Int.natCast_nonneg _)), Int.natAbs_natCast]
  · rw [if_neg whole, if_neg whole]
    dsimp only
    unfold Binary64.chars
    exact if_neg Bool.false_ne_true

theorem numberText_whole {n den : Nat} (pos : 0 < den) (small : n < 2 ^ 53) :
    numberText (ofRatio false (n * den) den) = digitsOf n := by
  have units := nearest_whole pos small
  have high : nearest (n * den * one) den ≤ 2 ^ 53 * one := by
    rw [units]
    exact Nat.mul_le_mul_right _ small.le
  rw [ofRatio_eq_finite high, units, numberText_finite, Nat.mul_mod_left, if_pos rfl,
    Nat.mul_div_cancel _ Binary64.one_pos]

theorem numberText_part {m places : Nat} (few : places ≤ 6) (above : 10 ^ places ≤ m)
    (small : m < 2 ^ 33 * 10 ^ places) (part : ¬10 ^ places ∣ m) :
    numberText (ofRatio false m (10 ^ places)) = unitsText (nearest (m * one) (10 ^ places)) := by
  have pos := ten_pow_pos places
  have high := (nearest_bounds pos above small).2
  have other : ¬nearest (m * one) (10 ^ places) % one = 0 :=
    mt (nearest_mod_one pos (ten_pow_lt few) small).mp part
  rw [ofRatio_eq_finite (high.trans (Nat.mul_le_mul_right _ (by decide))), numberText_finite, if_neg other]

section

variable {p : Part} {m : Nat}

theorem Part.length_of_quotient
    (quotient : Text.decimalValue (p.whole ++ p.fraction) * p.unit.micros = m * 10 ^ p.fraction.length) :
    p.rounded = m ∧ p.undivided = ((p.unit.micros * (m / m.gcd p.unit.micros) : Nat) : Int) := by
  have pos := p.unit.micros_pos
  have unit : (p.unit.micros : ℚ) ≠ 0 := Nat.cast_ne_zero.mpr pos.ne'
  have scale : ((10 ^ p.fraction.length : Nat) : ℚ) ≠ 0 := Nat.cast_ne_zero.mpr (ten_pow_pos _).ne'
  have number : p.number = (m : ℚ) / p.unit.micros := by
    rw [Part.number, div_eq_div_iff scale unit]
    exact_mod_cast quotient
  constructor
  · rw [Part.rounded, number, div_mul_cancel₀ _ unit, halfEven_natCast]
  · rw [Part.undivided, number, (num_den_div m pos).1, Nat.cast_mul]

theorem parse_part {d : Duration} {body : List Char} (same : d.micros.natAbs = m)
    (text : d.chars = if d.micros < 0 then '-' :: body else body) (writes : p.Writes body)
    (quotient : Text.decimalValue (p.whole ++ p.fraction) * p.unit.micros = m * 10 ^ p.fraction.length) :
    parse d.text = if p.unit.micros * (m / m.gcd p.unit.micros) < 86400000000000000000 then .ok d
      else .error .outOfRange := by
  have low := d.low
  have high := d.high
  obtain ⟨rounded, undivided⟩ := Part.length_of_quotient quotient
  have written : Written (d.micros < 0) [p] d.text.toList := by
    rw [Duration.text, String.toList_ofList, text]
    by_cases negative : d.micros < 0
    · simpa [negative] using Written.parts .minus (List.cons_ne_nil p []) writes.body
    · simpa [negative] using Written.parts .none (List.cons_ne_nil p []) writes.body
  have sum : total [p] = m := by simp [total, rounded]
  have micros : value (d.micros < 0) [p] = d.micros := by
    rw [value, sum]
    split <;> rename_i negative <;> rw [decide_eq_true_eq] at negative <;> omega
  have overflows : Overflows (d.micros < 0) [p] ↔ ¬Fits p.undivided := by
    have fits : Fits (m : Int) := fits_iff.mpr (by omega)
    have fits' : Fits d.micros := ⟨d, rfl⟩
    rw [Overflows, micros, ← not_iff_not, not_or, not_spills_iff, sum]
    simp [fits, fits']
  rw [undivided, fits_iff] at overflows
  rcases parse_of_written written with ⟨out, read⟩ | ⟨inside, d', read, micros'⟩
  · rw [read, if_neg]
    have := overflows.mp out
    omega
  · have := mt overflows.mpr inside
    rw [read, if_pos (by omega)]
    cases d
    cases d'
    cases micros'.trans micros
    rfl

end

def unitOf (m : Nat) : TimeUnit :=
  if m < 1000 then .micro else if m < 1000000 then .milli else .second

theorem numberText_writes (m places : Nat) (unit : TimeUnit) (few : places ≤ 6) (above : 10 ^ places ≤ m)
    (exact : (∃ n, m = n * 10 ^ places ∧ n < 2 ^ 53) ∨ m < 2 ^ 33 * 10 ^ places) :
    ∃ p : Part, p.Writes (numberText (ofRatio false m (10 ^ places)) ++ unit.chars) ∧
      p.unit = unit ∧ Text.decimalValue (p.whole ++ p.fraction) * 10 ^ places = m * 10 ^ p.fraction.length := by
  have pos := ten_pow_pos places
  have whole {n : Nat} (same : m = n * 10 ^ places) (small : n < 2 ^ 53) :
      ∃ p : Part, p.Writes (numberText (ofRatio false m (10 ^ places)) ++ unit.chars) ∧ p.unit = unit ∧
        Text.decimalValue (p.whole ++ p.fraction) * 10 ^ places = m * 10 ^ p.fraction.length := by
    rw [same, numberText_whole pos small]
    refine ⟨⟨digitsOf n, [], unit⟩, .whole (digitsOf_ne_nil n) (isDigit_digitsOf n) rfl, rfl, ?_⟩
    rw [List.append_nil, decimalValue_digitsOf, List.length_nil, pow_zero, Nat.mul_one]
  rcases exact with ⟨n, same, small⟩ | small
  · exact whole same small
  · by_cases divides : 10 ^ places ∣ m
    · obtain ⟨n, same⟩ := divides
      rw [Nat.mul_comm] at same
      refine whole same ?_
      have := Nat.lt_of_mul_lt_mul_right (same ▸ small)
      omega
    · obtain ⟨before, behind, text, some, digits, quotient⟩ := unitsText_quotient few above small divides
      obtain ⟨digits, digits'⟩ := List.forall_mem_append.mp digits
      rw [numberText_part few above small divides, text, List.append_assoc]
      exact ⟨⟨before, behind, unit⟩, .point some digits digits', rfl, quotient⟩

theorem magnitudeText_writes {m : Nat} (high : m < 86400000000000000000)
    (exact : 10 ^ 6 ∣ m ∨ m < 2 ^ 33 * 10 ^ 6) :
    ∃ p : Part, p.Writes (magnitudeText m) ∧ p.unit = unitOf m ∧
      Text.decimalValue (p.whole ++ p.fraction) * p.unit.micros = m * 10 ^ p.fraction.length := by
  unfold magnitudeText unitOf
  split
  · refine ⟨⟨digitsOf m, [], .micro⟩, .whole (digitsOf_ne_nil m) (isDigit_digitsOf m) rfl, rfl, ?_⟩
    rw [List.append_nil, decimalValue_digitsOf]
    rfl
  · split
    · obtain ⟨p, writes, unit, quotient⟩ := numberText_writes m 3 .milli (by decide) (by omega)
        (.inr (by omega))
      refine ⟨p, writes, unit, ?_⟩
      rw [unit]
      exact quotient
    · have exact' : (∃ n, m = n * 10 ^ 6 ∧ n < 2 ^ 53) ∨ m < 2 ^ 33 * 10 ^ 6 := by
        refine exact.imp_left fun ⟨n, same⟩ => ⟨n, by omega, by omega⟩
      obtain ⟨p, writes, unit, quotient⟩ := numberText_writes m 6 .second (by decide) (by omega)
        exact'
      refine ⟨p, writes, unit, ?_⟩
      rw [unit]
      exact quotient

theorem unitOf_reaches {m : Nat} (high : m < 86400000000000000000) :
    (unitOf m).micros * (m / m.gcd (unitOf m).micros) < 86400000000000000000 ↔
      m < 10 ^ 6 ∨ m / m.gcd (10 ^ 6) < 86400000000000 := by
  have le (n : Nat) : m / n ≤ m := Nat.div_le_self m n
  unfold unitOf
  split
  · have := le (m.gcd TimeUnit.micro.micros)
    simp only [TimeUnit.micros] at this ⊢
    omega
  · split
    · have := le (m.gcd TimeUnit.milli.micros)
      simp only [TimeUnit.micros] at this ⊢
      omega
    · simp only [TimeUnit.micros, show 10 ^ 6 = 1000000 by decide]
      omega

theorem parse_text (d : Duration)
    (exact : 10 ^ 6 ∣ d.micros.natAbs ∨ d.micros.natAbs < 2 ^ 33 * 10 ^ 6) :
    parse d.text =
      if d.micros.natAbs < 10 ^ 6 ∨ d.micros.natAbs / d.micros.natAbs.gcd (10 ^ 6) < 86400000000000 then .ok d
      else .error .outOfRange := by
  have low := d.low
  have high := d.high
  by_cases zero : d.micros = 0
  · have same : d = ⟨0, by decide, by decide⟩ := by
      cases d
      cases zero
      rfl
    rw [same]
    rfl
  · have above : d.micros.natAbs < 86400000000000000000 := by omega
    obtain ⟨p, writes, unit, quotient⟩ := magnitudeText_writes above exact
    have text : d.chars = if d.micros < 0 then '-' :: magnitudeText d.micros.natAbs
        else magnitudeText d.micros.natAbs := by
      unfold chars
      rw [if_neg zero]
    rw [parse_part rfl text writes quotient, unit]
    exact if_congr (unitOf_reaches above) rfl rfl

/-- The text of less than a thousand days is read as them. -/
theorem parse_text_of_lt (d : Duration) (few : |d.micros| < 1000 * microsPerDay) : parse d.text = .ok d := by
  have few : d.micros.natAbs < 86400000000000 := by
    rw [Int.abs_eq_natAbs, microsPerDay] at few
    omega
  have exact : d.micros.natAbs < 2 ^ 33 * 10 ^ 6 := by omega
  have numerator : d.micros.natAbs / d.micros.natAbs.gcd (10 ^ 6) < 86400000000000 :=
    Nat.lt_of_le_of_lt (Nat.div_le_self _ _) few
  rw [parse_text d (.inr exact), if_pos (.inr numerator)]

theorem parse_text_of_lt_lastMicrosecond :
    let d : Duration := ⟨-86399999999999, by decide, by decide⟩
    |d.micros| < 1000 * microsPerDay ∧ d.text = "-86399999.999999s" ∧ parse d.text = .ok d := by
  intro d
  have few : |d.micros| < 1000 * microsPerDay := by decide
  exact ⟨few, by decide +kernel, parse_text_of_lt d few⟩

theorem parse_text_whole (d : Duration) (whole : 10 ^ 6 ∣ d.micros.natAbs) : parse d.text = .ok d := by
  have low := d.low
  have high := d.high
  have few : d.micros.natAbs / 10 ^ 6 < 86400000000000 := by omega
  rw [parse_text d (.inl whole), Nat.gcd_eq_right whole, if_pos (.inr few)]

end Duration

end Gesture
