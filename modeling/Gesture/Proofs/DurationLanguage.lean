import Gesture.Duration
import Mathlib.Algebra.Order.BigOperators.Group.List
import Mathlib.Data.List.TakeWhile
import Mathlib.Data.Nat.Cast.Field
import Mathlib.Data.Rat.Floor
import Mathlib.Data.Rat.Lemmas
import Mathlib.Tactic.Linarith

namespace Gesture

/-- The whole number nearest to a number; of two equally near ones, the even one. -/
def halfEven (q : ℚ) : ℤ :=
  if Int.fract q = 1 / 2 ∧ Even ⌊q⌋ then ⌊q⌋ else round q

theorem halfEven_natCast (n : ℕ) : halfEven n = n := by
  simp [halfEven]

section

variable {num den : ℕ}

theorem fract_div (num den : ℕ) : Int.fract ((num : ℚ) / den) = ((num % den : ℕ) : ℚ) / den :=
  Int.fract_div_natCast_eq_div_natCast_mod

theorem fract_div_lt_half (pos : 0 < den) :
    Int.fract ((num : ℚ) / den) < 1 / 2 ↔ 2 * (num % den) < den := by
  rw [fract_div, div_lt_div_iff₀ (Nat.cast_pos.mpr pos) two_pos, one_mul, mul_comm]
  exact_mod_cast Iff.rfl

theorem fract_div_eq_half (pos : 0 < den) :
    Int.fract ((num : ℚ) / den) = 1 / 2 ↔ 2 * (num % den) = den := by
  rw [fract_div, div_eq_div_iff (Nat.cast_pos.mpr pos).ne' two_ne_zero, one_mul, mul_comm]
  exact_mod_cast Iff.rfl

theorem round_div (pos : 0 < den) :
    round ((num : ℚ) / den) = ((if 2 * (num % den) < den then num / den else num / den + 1 : ℕ) : ℤ) := by
  have floor := Rat.floor_natCast_div_natCast num den
  have parted := Int.floor_add_fract ((num : ℚ) / den)
  have nonneg := Int.fract_nonneg ((num : ℚ) / den)
  have below := Int.fract_lt_one ((num : ℚ) / den)
  rw [floor] at parted
  rw [round_eq_iff, ← parted]
  split
  · rename_i less
    have less := (fract_div_lt_half pos).mpr less
    constructor <;> push_cast <;> linarith
  · rename_i more
    have more := not_lt.mp (mt (fract_div_lt_half pos).mp more)
    constructor <;> push_cast <;> linarith

theorem halfEven_div (pos : 0 < den) : halfEven ((num : ℚ) / den) = roundDiv num den := by
  have floor : ⌊(num : ℚ) / den⌋ = ((num / den : ℕ) : ℤ) := Rat.floor_natCast_div_natCast num den
  unfold halfEven roundDiv
  simp only [fract_div_eq_half pos, floor, Int.even_coe_nat, Nat.even_iff, round_div pos]
  rcases lt_trichotomy (2 * (num % den)) den with less | tie | more
  · rw [if_neg (by omega), if_pos less, if_pos less]
  · by_cases even : num / den % 2 = 0
    · rw [if_pos ⟨tie, even⟩, if_neg tie.not_lt, if_neg tie.not_gt, if_pos even]
    · rw [if_neg (by omega), if_neg tie.not_lt, if_neg tie.not_lt, if_neg tie.not_gt, if_neg even]
  · rw [if_neg (by omega), if_neg more.not_gt, if_neg more.not_gt, if_pos more]

theorem roundDivInt_natCast (num den : ℕ) : roundDivInt num den = roundDiv num den := by
  unfold roundDivInt
  rw [if_neg (by omega), Int.natAbs_natCast]

theorem num_den_div (num : ℕ) (pos : 0 < den) :
    ((num : ℚ) / den).num = ((num / num.gcd den : ℕ) : ℤ) ∧ ((num : ℚ) / den).den = den / num.gcd den := by
  have common := Nat.gcd_pos_of_pos_right num pos
  have bottom : 0 < den / num.gcd den := Nat.div_pos (Nat.gcd_le_right num pos) common
  have coprime : (num / num.gcd den).Coprime (den / num.gcd den) := Nat.coprime_div_gcd_div_gcd common
  have lowest : (num : ℚ) / den = ((num / num.gcd den : ℕ) : ℤ) / ((den / num.gcd den : ℕ) : ℤ) := by
    rw [Int.cast_natCast, Int.cast_natCast,
      Nat.cast_div_div_div_cancel_right (Nat.gcd_dvd_right num den) (Nat.gcd_dvd_left num den)]
  have bottom : 0 < ((den / num.gcd den : ℕ) : ℤ) := Int.natCast_pos.mpr bottom
  rw [lowest]
  refine ⟨Rat.num_div_eq_of_coprime bottom coprime, ?_⟩
  exact Int.natCast_inj.mp (Rat.den_div_eq_of_coprime bottom coprime)

end

namespace Duration

theorem bind_ok {α β : Type} (a : α) (f : α → Except Error β) : (Except.ok a).bind f = f a := rfl

def Fits (micros : ℤ) : Prop :=
  ∃ d : Duration, d.micros = micros

theorem fits_iff {micros : ℤ} :
    Fits micros ↔ -86399999913600000000 ≤ micros ∧ micros < 86400000000000000000 := by
  constructor
  · rintro ⟨d, rfl⟩
    exact ⟨d.low, d.high⟩
  · rintro ⟨low, high⟩
    exact ⟨⟨micros, low, high⟩, rfl⟩

theorem Fits.of_le {m n : ℤ} (fits : Fits n) (nonneg : 0 ≤ m) (le : m ≤ n) : Fits m := by
  rw [fits_iff] at fits ⊢
  omega

theorem inRange_micros (d : Duration) : inRange d.micros = .ok d := by
  unfold inRange ofMicros?
  rw [dif_pos ⟨d.low, d.high⟩]

theorem inRange_of_not_fits {micros : ℤ} (out : ¬Fits micros) : inRange micros = .error .outOfRange := by
  unfold inRange ofMicros?
  rw [dif_neg (mt fits_iff.mpr out)]

def Part.number (p : Part) : ℚ :=
  (Text.decimalValue (p.whole ++ p.fraction) : ℚ) / (10 ^ p.fraction.length : ℕ)

def Part.rounded (p : Part) : ℤ :=
  halfEven (p.number * p.unit.micros)

/-- The unit times the numerator in lowest terms: the length of a part before it is divided. -/
def Part.undivided (p : Part) : ℤ :=
  p.unit.micros * p.number.num

section

variable {p : Part}

theorem TimeUnit.micros_pos (unit : TimeUnit) : 0 < unit.micros := by
  cases unit <;> decide

theorem Part.length_eq_bind (p : Part) :
    p.length = (inRange p.undivided).bind fun product => .ok (roundDivInt product.micros p.number.den) := by
  obtain ⟨num, den⟩ := num_den_div (Text.decimalValue (p.whole ++ p.fraction))
    (Nat.pow_pos (by decide) : 0 < 10 ^ p.fraction.length)
  rw [Part.undivided, Part.number, num, den, ← Nat.cast_mul]
  rfl

theorem Part.number_num_nonneg (p : Part) : 0 ≤ p.number.num := by
  rw [Rat.num_nonneg, Part.number]
  positivity

theorem Part.rounded_eq (p : Part) : p.rounded = roundDivInt p.undivided p.number.den := by
  obtain ⟨num, same⟩ := Int.eq_ofNat_of_zero_le p.number_num_nonneg
  have number : p.number * p.unit.micros = ((p.unit.micros * num : ℕ) : ℚ) / p.number.den := by
    nth_rewrite 1 [← Rat.num_div_den p.number]
    rw [same, div_mul_eq_mul_div, mul_comm, Int.cast_natCast, Nat.cast_mul]
  rw [Part.rounded, number, halfEven_div p.number.den_pos, Part.undivided, same, ← Nat.cast_mul,
    roundDivInt_natCast]

theorem Part.rounded_nonneg (p : Part) : 0 ≤ p.rounded := by
  obtain ⟨num, same⟩ := Int.eq_ofNat_of_zero_le p.number_num_nonneg
  rw [p.rounded_eq, Part.undivided, same, ← Nat.cast_mul, roundDivInt_natCast]
  exact Int.natCast_nonneg _

theorem Part.length_of_fits (fits : Fits p.undivided) : p.length = .ok p.rounded := by
  obtain ⟨d, same⟩ := fits
  rw [p.length_eq_bind, p.rounded_eq, ← same, inRange_micros, bind_ok]

theorem Part.length_of_not_fits (out : ¬Fits p.undivided) : p.length = .error .outOfRange := by
  rw [p.length_eq_bind, inRange_of_not_fits out]
  rfl

end

def TimeUnit.chars : TimeUnit → List Char
  | .micro => ['u', 's']
  | .milli => ['m', 's']
  | .second => ['s']
  | .minute => ['m']
  | .hour => ['h']

/-- A text of a part: digits, a point with more digits or none after it, or no point, and a unit. -/
inductive Part.Writes (p : Part) : List Char → Prop
  | whole (some : p.whole ≠ []) (digits : ∀ c ∈ p.whole, Text.isDigit c = true)
      (none : p.fraction = []) :
      Writes p (p.whole ++ p.unit.chars)
  | point (some : p.whole ≠ []) (digits : ∀ c ∈ p.whole, Text.isDigit c = true)
      (behind : ∀ c ∈ p.fraction, Text.isDigit c = true) :
      Writes p (p.whole ++ '.' :: (p.fraction ++ p.unit.chars))

/-- A part at the start of a text, and the rest of it. The unit is the longest that is there: a letter for
    minutes with an `s` after it means milliseconds. -/
structure Part.At (p : Part) (text rest : List Char) : Prop where
  writes : ∃ own, p.Writes own ∧ text = own ++ rest
  longest : p.unit = .minute → rest.head? ≠ some 's'

theorem unitAt?_eq_some {text rest : List Char} {unit : TimeUnit} :
    unitAt? text = some (unit, rest) ↔
      text = unit.chars ++ rest ∧ (unit = .minute → rest.head? ≠ some 's') := by
  constructor
  · intro found
    unfold unitAt? at found
    split at found
    · cases found
      exact ⟨rfl, nofun⟩
    · cases found
      exact ⟨rfl, nofun⟩
    · cases found
      exact ⟨rfl, nofun⟩
    · rename_i rest' other
      cases found
      refine ⟨rfl, fun _ follows => ?_⟩
      obtain ⟨more, rfl⟩ := List.head?_eq_some_iff.mp follows
      exact other more rfl
    · cases found
      exact ⟨rfl, nofun⟩
    · cases found
  · rintro ⟨rfl, longest⟩
    cases unit with
    | minute =>
      rcases rest with _ | ⟨c, rest⟩
      · rfl
      · have other : c ≠ 's' := fun same => longest rfl (by rw [same]; rfl)
        change unitAt? ('m' :: c :: rest) = _
        unfold unitAt?
        split <;> simp_all
    | _ => rfl

theorem chars_append (unit : TimeUnit) (rest : List Char) : ∃ c more, unit.chars ++ rest = c :: more ∧
    Text.isDigit c = false ∧ c ≠ '.' := by
  cases unit <;> exact ⟨_, _, rfl, by decide, by decide⟩

section

variable {p : Part} {text rest : List Char}

theorem takeWhile_digits {digits : List Char} (all : ∀ c ∈ digits, Text.isDigit c = true) {c : Char}
    (other : Text.isDigit c = false) (rest : List Char) :
    (digits ++ c :: rest).takeWhile Text.isDigit = digits ∧
      (digits ++ c :: rest).dropWhile Text.isDigit = c :: rest := by
  have stops : ¬Text.isDigit c = true := by simp [other]
  rw [List.takeWhile_append_of_pos all, List.dropWhile_append_of_pos all, List.takeWhile_cons_of_neg stops,
    List.dropWhile_cons_of_neg stops, List.append_nil]
  exact ⟨rfl, rfl⟩

theorem partAt?_of_at (here : p.At text rest) : partAt? text = some (p, rest) := by
  obtain ⟨⟨own, writes, rfl⟩, longest⟩ := here
  have unit := unitAt?_eq_some.mpr ⟨rfl, longest⟩
  obtain ⟨c, more, begins, noDigit, noPoint⟩ := chars_append p.unit rest
  -- A unit begins with neither a digit nor a point, so that the digits end where they should.
  cases writes with
  | whole some digits none =>
    rw [List.append_assoc, begins]
    rw [begins] at unit
    obtain ⟨taken, left⟩ := takeWhile_digits digits noDigit more
    unfold partAt?
    dsimp only
    rw [taken, left, if_neg (by simpa using some)]
    split
    · rename_i same
      cases same
      exact absurd rfl noPoint
    · rw [unit, ← none]
      rfl
  | point some digits behind =>
    rw [List.append_assoc, List.cons_append, List.append_assoc, begins]
    rw [begins] at unit
    obtain ⟨taken, left⟩ := takeWhile_digits digits (c := '.') (by decide) (p.fraction ++ c :: more)
    obtain ⟨taken', left'⟩ := takeWhile_digits behind noDigit more
    unfold partAt?
    dsimp only
    rw [taken, left, if_neg (by simpa using some)]
    change (unitAt? ((p.fraction ++ c :: more).dropWhile Text.isDigit)).map (fun q =>
      ((⟨p.whole, (p.fraction ++ c :: more).takeWhile Text.isDigit, q.1⟩ : Part), q.2)) = _
    rw [taken', left', unit]
    rfl

theorem at_of_partAt? (found : partAt? text = some (p, rest)) : p.At text rest := by
  have digits : ∀ l : List Char, ∀ c ∈ l.takeWhile Text.isDigit, Text.isDigit c = true :=
    fun _ _ => List.mem_takeWhile_imp
  unfold partAt? at found
  dsimp only at found
  split at found
  · cases found
  · rename_i some
    have some : text.takeWhile Text.isDigit ≠ [] := by simpa using some
    have whole := List.takeWhile_append_dropWhile (p := Text.isDigit) (l := text)
    split at found
    · rename_i more left
      obtain ⟨⟨unit, after⟩, here, same⟩ := Option.map_eq_some_iff.mp found
      cases same
      obtain ⟨parted, longest⟩ := unitAt?_eq_some.mp here
      refine ⟨⟨_, .point some (digits _) (digits _), ?_⟩, longest⟩
      have behind := List.takeWhile_append_dropWhile (p := Text.isDigit) (l := more)
      dsimp only at parted ⊢
      rw [List.append_assoc, List.cons_append, List.append_assoc, ← parted, behind, ← left, whole]
    · obtain ⟨⟨unit, after⟩, here, same⟩ := Option.map_eq_some_iff.mp found
      cases same
      obtain ⟨parted, longest⟩ := unitAt?_eq_some.mp here
      refine ⟨⟨_, .whole some (digits _) rfl, ?_⟩, longest⟩
      dsimp only at parted ⊢
      rw [List.append_assoc, ← parted, whole]

end

inductive Body : List Part → List Char → Prop
  | nil : Body [] []
  | cons {p : Part} {parts : List Part} {own rest : List Char} (first : p.Writes own)
      (next : Body parts rest) : Body (p :: parts) (own ++ rest)

/-- The parts that are read one by one from the start of a text, and the rest of it. -/
inductive Reads : List Char → List Part → List Char → Prop
  | nil (text : List Char) : Reads text [] text
  | cons {text after rest : List Char} {p : Part} {parts : List Part} (first : p.At text after)
      (next : Reads after parts rest) : Reads text (p :: parts) rest

section

variable {p : Part} {parts : List Part} {text rest : List Char}

theorem Part.Writes.exists_cons (writes : p.Writes text) :
    ∃ c more, text = c :: more ∧ Text.isDigit c = true := by
  have first (some : p.whole ≠ []) (digits : ∀ c ∈ p.whole, Text.isDigit c = true)
      (behind : List Char) : ∃ c more, p.whole ++ behind = c :: more ∧ Text.isDigit c = true := by
    obtain ⟨c, more, same⟩ := List.exists_cons_of_ne_nil some
    exact ⟨c, more ++ behind, by rw [same, List.cons_append], digits c (by simp [same])⟩
  cases writes with
  | whole some digits _ => exact first some digits _
  | point some digits _ => exact first some digits _

theorem Part.At.exists_cons (here : p.At text rest) :
    ∃ c more, text = c :: more ∧ Text.isDigit c = true := by
  obtain ⟨⟨own, writes, rfl⟩, _⟩ := here
  obtain ⟨c, more, rfl, digit⟩ := writes.exists_cons
  exact ⟨c, more ++ rest, rfl, digit⟩

theorem Part.At.length_lt (here : p.At text rest) : rest.length < text.length :=
  length_of_partAt? (partAt?_of_at here)

theorem reads_of_body (body : Body parts text) : Reads text parts [] := by
  induction body with
  | nil => exact .nil []
  | cons first next ih =>
    refine .cons ⟨⟨_, first, rfl⟩, fun _ follows => ?_⟩ ih
    -- What follows is another part, and begins with a digit.
    cases next with
    | nil => cases follows
    | cons second _ =>
      obtain ⟨c, more, rfl, digit⟩ := second.exists_cons
      cases follows
      exact absurd digit (by decide)

theorem Part.Writes.body (writes : p.Writes text) : Body [p] text := by
  simpa using Body.cons writes .nil

theorem body_of_reads (reads : Reads text parts rest) (all : rest = []) : Body parts text := by
  induction reads with
  | nil text => exact all ▸ .nil
  | cons first _ ih =>
    obtain ⟨⟨own, writes, rfl⟩, _⟩ := first
    exact .cons writes (ih all)

theorem exists_reads (text : List Char) : ∃ parts rest, Reads text parts rest ∧ partAt? rest = none := by
  cases found : partAt? text with
  | none => exact ⟨[], text, .nil text, found⟩
  | some here =>
    obtain ⟨p, after⟩ := here
    obtain ⟨parts, rest, reads, stops⟩ := exists_reads after
    exact ⟨p :: parts, rest, .cons (at_of_partAt? found) reads, stops⟩
termination_by text.length
decreasing_by exact length_of_partAt? found

end

def total (parts : List Part) : ℤ :=
  (parts.map Part.rounded).sum

inductive Spills (parts : List Part) : Prop
  | product {p : Part} (among : p ∈ parts) (out : ¬Fits p.undivided)
  | sum {before : List Part} (first : before <+: parts) (out : ¬Fits (total before))

theorem total_nonneg (parts : List Part) : 0 ≤ total parts := by
  refine List.sum_nonneg fun n member => ?_
  obtain ⟨p, _, rfl⟩ := List.mem_map.mp member
  exact p.rounded_nonneg

theorem total_append (left right : List Part) : total (left ++ right) = total left + total right := by
  simp [total]

theorem not_spills_iff {parts : List Part} :
    ¬Spills parts ↔ (∀ p ∈ parts, Fits p.undivided) ∧ Fits (total parts) := by
  constructor
  · intro inside
    exact ⟨fun p among => by_contra fun out => inside (.product among out),
      by_contra fun out => inside (.sum List.prefix_rfl out)⟩
  · rintro ⟨products, sum⟩ (⟨among, out⟩ | ⟨⟨after, rfl⟩, out⟩)
    · exact out (products _ among)
    · have nonneg := total_nonneg after
      rw [total_append] at sum
      exact out (sum.of_le (total_nonneg _) (by omega))

section

variable {whole text after rest : List Char} {p : Part} {parts : List Part} {start : Duration}

theorem addParts_cons (here : p.At text after) : addParts whole start text =
    p.length.bind fun n => (inRange (start.micros + n)).bind fun sum => addParts whole sum after := by
  obtain ⟨c, more, rfl, _⟩ := here.exists_cons
  have found := partAt?_of_at here
  rw [addParts]
  split
  · rename_i none
    cases none.symm.trans found
  · rename_i other
    cases other.symm.trans found
    rfl

theorem addParts_nil (whole : List Char) (start : Duration) : addParts whole start [] = .ok start := by
  rw [addParts]

theorem addParts_of_none (some : text ≠ []) (none : partAt? text = none) :
    ∃ position, addParts whole start text = .error (.invalid (String.ofList whole) position) := by
  obtain ⟨c, more, rfl⟩ := List.exists_cons_of_ne_nil some
  refine ⟨whole.length - (more.length + 1), ?_⟩
  rw [addParts]
  split
  · rfl
  · rename_i other
    cases none.symm.trans other

theorem addParts_of_fits (reads : Reads text parts rest) (products : ∀ p ∈ parts, Fits p.undivided)
    {sum : Duration} (same : sum.micros = start.micros + total parts) (nonneg : 0 ≤ start.micros) :
    addParts whole start text = addParts whole sum rest := by
  induction reads generalizing start with
  | nil text =>
    have equal : sum = start := by
      cases sum
      cases start
      simpa [total] using same
    rw [equal]
  | @cons text after rest p parts first next ih =>
    obtain ⟨product, products⟩ := List.forall_mem_cons.mp products
    have parted : total (p :: parts) = p.rounded + total parts := List.sum_cons
    have here := p.rounded_nonneg
    have later := total_nonneg parts
    obtain ⟨middle, micros⟩ : Fits (start.micros + p.rounded) :=
      Fits.of_le ⟨sum, rfl⟩ (by omega) (by omega)
    rw [addParts_cons first, Part.length_of_fits product, bind_ok, ← micros, inRange_micros, bind_ok]
    exact ih products (by omega) (by omega)

theorem exists_sum (reads : Reads text parts rest) (inside : ¬Spills parts) :
    ∃ sum : Duration, sum.micros = total parts ∧
      addParts whole ⟨0, by decide, by decide⟩ text = addParts whole sum rest := by
  obtain ⟨products, sum, same⟩ := not_spills_iff.mp inside
  exact ⟨sum, same, addParts_of_fits reads products (by simpa using same) le_rfl⟩

theorem addParts_of_out (reads : Reads text parts rest)
    (out : ¬((∀ p ∈ parts, Fits p.undivided) ∧ Fits (start.micros + total parts))) :
    addParts whole start text = .error .outOfRange := by
  induction reads generalizing start with
  | nil text =>
    refine absurd ⟨fun _ member => absurd member List.not_mem_nil, start, ?_⟩ out
    simp [total]
  | @cons text after rest p parts first next ih =>
    have parted : total (p :: parts) = p.rounded + total parts := List.sum_cons
    rw [addParts_cons first]
    by_cases product : Fits p.undivided
    · rw [Part.length_of_fits product, bind_ok]
      by_cases sum : Fits (start.micros + p.rounded)
      · obtain ⟨middle, micros⟩ := sum
        rw [← micros, inRange_micros, bind_ok]
        refine ih fun ⟨products, fits⟩ => out ⟨List.forall_mem_cons.mpr ⟨product, products⟩, ?_⟩
        rwa [micros, Int.add_assoc, ← parted] at fits
      · rw [inRange_of_not_fits sum]
        rfl
    · rw [Part.length_of_not_fits product]
      rfl

end

inductive Sign : Bool → List Char → Prop
  | none : Sign false []
  | plus : Sign false ['+']
  | minus : Sign true ['-']

inductive Written (negative : Bool) : List Part → List Char → Prop
  | zero {sign : List Char} (signed : Sign negative sign) : Written negative [] (sign ++ ['0'])
  | parts {sign body : List Char} {parts : List Part} (signed : Sign negative sign) (some : parts ≠ [])
      (writes : Body parts body) : Written negative parts (sign ++ body)

def value (negative : Bool) (parts : List Part) : ℤ :=
  if negative then -total parts else total parts

/-- Parts that go out of range while they are added up, or with their sign. -/
def Overflows (negative : Bool) (parts : List Part) : Prop :=
  Spills parts ∨ ¬Fits (value negative parts)

section

variable {negative : Bool} {sign body rest : List Char} {parts : List Part} {text : String}

theorem splitSign_of_sign (signed : Sign negative sign)
    (plain : ∀ c, body.head? = some c → c ≠ '-' ∧ c ≠ '+') :
    splitSign (sign ++ body) = (negative, body) := by
  cases signed with
  | none =>
    rw [List.nil_append]
    unfold splitSign
    split
    · exact absurd rfl (plain '-' rfl).1
    · exact absurd rfl (plain '+' rfl).2
    · rfl
  | plus => rfl
  | minus => rfl

theorem exists_sign (text : List Char) :
    ∃ sign, Sign (splitSign text).1 sign ∧ text = sign ++ (splitSign text).2 := by
  unfold splitSign
  split
  · exact ⟨['-'], .minus, rfl⟩
  · exact ⟨['+'], .plus, rfl⟩
  · exact ⟨[], .none, rfl⟩

theorem Reads.plain (reads : Reads body parts rest) (some : parts ≠ []) :
    (∀ c, body.head? = .some c → c ≠ '-' ∧ c ≠ '+') ∧ body ≠ [] ∧ body ≠ ['0'] := by
  cases reads with
  | nil => exact absurd rfl some
  | cons first _ =>
    have found := partAt?_of_at first
    obtain ⟨c, more, rfl, digit⟩ := first.exists_cons
    refine ⟨fun c' same => ?_, List.cons_ne_nil c more, ?_⟩
    · cases same
      constructor <;> rintro rfl <;> exact absurd digit (by decide)
    · rintro same
      rw [same] at found
      cases found

theorem parse_eq_bind (parted : splitSign text.toList = (negative, body)) (some : body ≠ [])
    (other : body ≠ ['0']) :
    parse text = (addParts body ⟨0, by decide, by decide⟩ body).bind fun sum =>
      inRange (if negative then -sum.micros else sum.micros) := by
  unfold parse
  rw [parted]
  dsimp only
  rw [if_neg (by simpa using some), if_neg other]
  rfl

/-- A text whose parts go out of range while they are read, whatever comes after them. -/
def SpillsEarly (text : List Char) : Prop :=
  ∃ negative sign body parts rest, Sign negative sign ∧ text = sign ++ body ∧ Reads body parts rest ∧
    Spills parts

theorem not_spills_nil : ¬Spills [] :=
  not_spills_iff.mpr ⟨fun _ member => absurd member List.not_mem_nil, ⟨0, by decide, by decide⟩, rfl⟩

theorem parse_of_spills (reads : Reads body parts rest) (spills : Spills parts)
    (parted : splitSign text.toList = (negative, body)) : parse text = .error .outOfRange := by
  have some : parts ≠ [] := fun none => not_spills_nil (none ▸ spills)
  obtain ⟨_, some, other⟩ := reads.plain some
  have out := mt not_spills_iff.mpr (not_not_intro spills)
  rw [parse_eq_bind parted some other, addParts_of_out reads]
  · rfl
  · simpa using out

theorem parse_of_spillsEarly (early : SpillsEarly text.toList) : parse text = .error .outOfRange := by
  obtain ⟨negative, sign, body, parts, rest, signed, same, reads, spills⟩ := early
  have some : parts ≠ [] := fun none => not_spills_nil (none ▸ spills)
  have parted : splitSign text.toList = (negative, body) := by
    rw [same]
    exact splitSign_of_sign signed (reads.plain some).1
  exact parse_of_spills reads spills parted

theorem parse_of_reads (reads : Reads body parts []) (some : parts ≠ [])
    (parted : splitSign text.toList = (negative, body)) :
    (Overflows negative parts ∧ parse text = .error .outOfRange) ∨
      (¬Overflows negative parts ∧ ∃ d, parse text = .ok d ∧ d.micros = value negative parts) := by
  by_cases spills : Spills parts
  · exact .inl ⟨.inl spills, parse_of_spills reads spills parted⟩
  · obtain ⟨sum, same, added⟩ := exists_sum reads spills
    obtain ⟨_, some, other⟩ := reads.plain some
    have signed : (if negative then -sum.micros else sum.micros) = value negative parts := by
      rw [same]
      rfl
    rw [parse_eq_bind parted some other, added, addParts_nil, bind_ok, signed]
    by_cases fits : Fits (value negative parts)
    · obtain ⟨d, micros⟩ := fits
      exact .inr ⟨not_or.mpr ⟨spills, not_not_intro ⟨d, micros⟩⟩, d, micros ▸ inRange_micros d, micros⟩
    · exact .inl ⟨.inr fits, inRange_of_not_fits fits⟩

theorem parse_of_written (written : Written negative parts text.toList) :
    (Overflows negative parts ∧ parse text = .error .outOfRange) ∨
      (¬Overflows negative parts ∧ ∃ d, parse text = .ok d ∧ d.micros = value negative parts) := by
  generalize same : text.toList = chars at written
  cases written with
  | zero signed =>
    have parted : splitSign text.toList = (negative, ['0']) := by
      rw [same]
      refine splitSign_of_sign signed fun c zero => ?_
      cases zero
      decide
    have zero : value negative [] = 0 := by cases negative <;> rfl
    refine .inr ⟨not_or.mpr ⟨not_spills_nil, not_not_intro ?_⟩, ⟨0, by decide, by decide⟩, ?_, zero.symm⟩
    · exact ⟨⟨0, by decide, by decide⟩, zero.symm⟩
    · unfold parse
      rw [parted]
      rfl
  | parts signed some writes =>
    have reads := reads_of_body writes
    refine parse_of_reads reads some ?_
    rw [same]
    exact splitSign_of_sign signed (reads.plain some).1

theorem exists_error (none : ∀ negative parts, ¬Written negative parts text.toList) :
    ∃ e, parse text = .error e ∧ (e = .outOfRange → SpillsEarly text.toList) := by
  obtain ⟨sign, signed, whole⟩ := exists_sign text.toList
  generalize parted : splitSign text.toList = signAndBody at signed whole
  obtain ⟨negative, body⟩ := signAndBody
  dsimp only at signed whole
  by_cases some : body = []
  · refine ⟨.empty, ?_, nofun⟩
    unfold parse
    rw [parted, some]
    rfl
  have other : body ≠ ['0'] := by
    rintro rfl
    exact none negative [] (whole ▸ .zero signed)
  -- Of the rest, parts are read as long as there are any: they go out of range, or text is left after them.
  obtain ⟨parts, rest, reads, stops⟩ := exists_reads body
  by_cases spills : Spills parts
  · exact ⟨.outOfRange, parse_of_spills reads spills parted,
      fun _ => ⟨negative, sign, body, parts, rest, signed, whole, reads, spills⟩⟩
  have left : rest ≠ [] := by
    rintro rfl
    have writes := body_of_reads reads rfl
    have some : parts ≠ [] := by
      rintro rfl
      cases writes
      exact some rfl
    exact none negative parts (whole ▸ .parts signed some writes)
  obtain ⟨sum, _, added⟩ := exists_sum reads spills
  obtain ⟨position, invalid⟩ := addParts_of_none left stops
  refine ⟨.invalid (String.ofList body) position, ?_, nofun⟩
  rw [parse_eq_bind parted some other, added, invalid]
  rfl

end

section

variable {parts parts' : List Part}

theorem total_perm (perm : parts.Perm parts') : total parts = total parts' :=
  (perm.map _).sum_eq

theorem overflows_perm (perm : parts.Perm parts') (negative : Bool) :
    Overflows negative parts ↔ Overflows negative parts' := by
  have spills : Spills parts ↔ Spills parts' := by
    rw [← not_iff_not, not_spills_iff, not_spills_iff, total_perm perm]
    simp only [perm.mem_iff]
  rw [Overflows, Overflows, spills, value, value, total_perm perm]

theorem parse_perm {negative : Bool} {text other : String} (written : Written negative parts text.toList)
    (written' : Written negative parts' other.toList) (perm : parts.Perm parts') :
    parse text = parse other := by
  have overflows := overflows_perm perm negative
  rcases parse_of_written written with ⟨out, read⟩ | ⟨inside, d, read, micros⟩
  · rcases parse_of_written written' with ⟨_, read'⟩ | ⟨inside', _⟩
    · rw [read, read']
    · exact absurd (overflows.mp out) inside'
  · rcases parse_of_written written' with ⟨out', _⟩ | ⟨_, d', read', micros'⟩
    · exact absurd (overflows.mpr out') inside
    · have same : d.micros = d'.micros := by rw [micros, micros', value, value, total_perm perm]
      cases d
      cases d'
      cases same
      rw [read, read']

end

/-- What texts are read as durations, and as which. Only texts that write a duration are read. These are read
    as the sum of their parts with their sign, each part rounded by itself, unless the unit times the numerator
    of a part, a partial sum, or the sum with the sign is out of range. All other texts are refused for what
    they are, unless parts that are read before that go out of range. The order of the parts does not matter,
    and the other sign negates. No text is read part by part without an end. -/
theorem parse_language (text : String) :
    (∀ d, parse text = .ok d → ∃ negative parts, Written negative parts text.toList) ∧
    (∀ negative parts, Written negative parts text.toList →
      (parse text = .error .outOfRange ↔ Overflows negative parts) ∧
      (¬Overflows negative parts → ∃ d, parse text = .ok d ∧ d.micros = value negative parts)) ∧
    ((∀ negative parts, ¬Written negative parts text.toList) →
      ∃ e, parse text = .error e ∧ (e = .outOfRange ↔ SpillsEarly text.toList)) ∧
    (∀ other negative parts parts', Written negative parts text.toList →
      Written negative parts' other.toList → parts.Perm parts' → parse text = parse other) ∧
    (∀ other parts d d', Written false parts text.toList → Written true parts other.toList →
      parse text = .ok d → parse other = .ok d' → d'.micros = -d.micros) ∧
    WellFounded fun after before => ∃ p : Part, p.At before after := by
  refine ⟨fun d read => ?_, fun negative parts written => ?_, fun none => ?_, ?_, ?_, ?_⟩
  · by_contra none
    simp only [not_exists] at none
    obtain ⟨e, failed, _⟩ := exists_error none
    cases read.symm.trans failed
  · rcases parse_of_written written with ⟨out, read⟩ | ⟨inside, d, read, micros⟩
    · exact ⟨iff_of_true read out, fun inside => absurd out inside⟩
    · refine ⟨iff_of_false (fun failed => ?_) inside, fun _ => ⟨d, read, micros⟩⟩
      cases read.symm.trans failed
  · obtain ⟨e, failed, early⟩ := exists_error none
    refine ⟨e, failed, early, fun spills => ?_⟩
    cases failed.symm.trans (parse_of_spillsEarly spills)
    rfl
  · exact fun other negative parts parts' written written' perm => parse_perm written written' perm
  · intro other parts d d' written written' read read'
    rcases parse_of_written written with ⟨_, failed⟩ | ⟨_, sum, same, micros⟩
    · cases read.symm.trans failed
    rcases parse_of_written written' with ⟨_, failed⟩ | ⟨_, sum', same', micros'⟩
    · cases read'.symm.trans failed
    cases read.symm.trans same
    cases read'.symm.trans same'
    rw [micros, micros']
    rfl
  · refine Subrelation.wf ?_ (measure List.length).wf
    rintro after before ⟨p, here⟩
    exact here.length_lt

/-- Two parts in both orders. One of them ends with half a microsecond after an even one, which is dropped. -/
theorem parse_language_twoOrders :
    let seconds : Part := ⟨['1'], ['0', '0', '0', '0', '0', '2', '5'], .second⟩
    let millis : Part := ⟨['2'], [], .milli⟩
    Written true [seconds, millis] "-1.0000025s2ms".toList ∧
      Written true [millis, seconds] "-2ms1.0000025s".toList ∧
      parse "-1.0000025s2ms" = parse "-2ms1.0000025s" ∧ ¬Overflows true [seconds, millis] ∧
      value true [seconds, millis] = -1002002 := by
  intro seconds millis
  have first : seconds.At "1.0000025s2ms".toList "2ms".toList := at_of_partAt? (by decide +kernel)
  have second : millis.At "2ms".toList [] := at_of_partAt? (by decide +kernel)
  have first' : millis.At "2ms1.0000025s".toList "1.0000025s".toList := at_of_partAt? (by decide +kernel)
  have second' : seconds.At "1.0000025s".toList [] := at_of_partAt? (by decide +kernel)
  have written : Written true [seconds, millis] "-1.0000025s2ms".toList :=
    .parts .minus (List.cons_ne_nil _ _) (body_of_reads (.cons first (.cons second (.nil []))) rfl)
  have written' : Written true [millis, seconds] "-2ms1.0000025s".toList :=
    .parts .minus (List.cons_ne_nil _ _) (body_of_reads (.cons first' (.cons second' (.nil []))) rfl)
  have read : parse "-1.0000025s2ms" = .ok ⟨-1002002, by decide, by decide⟩ := by decide +kernel
  obtain ⟨_, meaning, _, order, _⟩ := parse_language "-1.0000025s2ms"
  obtain ⟨overflows, reads⟩ := meaning true [seconds, millis] written
  have inside : ¬Overflows true [seconds, millis] := by
    rw [← overflows, read]
    exact nofun
  obtain ⟨d, same, micros⟩ := reads inside
  cases read.symm.trans same
  exact ⟨written, written', order _ true _ _ written written' (List.Perm.swap _ _ []), inside, micros.symm⟩

end Duration

end Gesture
