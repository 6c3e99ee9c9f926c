import Gesture.Proofs.Splits
import Gesture.Proofs.Startup
import Mathlib.Data.List.Pairwise

namespace Gesture

theorem forall_or_reaches {α : Type} (pass : α → Prop) (l : List α) :
    (∀ x ∈ l, pass x) ∨ Reaches pass (¬pass ·) l := by
  induction l with
  | nil => exact .inl fun _ member => absurd member List.not_mem_nil
  | cons x l ih =>
    rw [reaches_cons, List.forall_mem_cons]
    by_cases here : pass x
    · exact ih.imp (⟨here, ·⟩) (.inr ⟨here, ·⟩)
    · exact .inr (.inl here)

namespace Action

/-- Texts that say an action: an action, a pattern that is not empty, and a condition. -/
structure Parts.Valid (parts : Parts) : Prop where
  action : ∃ kind, Kind.parse parts.action = .ok kind
  pattern : ∃ tokens, Grammar.parse parts.pattern = .ok tokens ∧ tokens ≠ []
  condition : ∃ condition, Condition.parse parts.condition = .ok condition

/-- What is wrong with texts that say no action: the first fault among action, pattern and condition. -/
inductive Parts.Fault (parts : Parts) : Refusal → Prop
  | action {r : Refusal} (refused : Kind.parse parts.action = .error (.refused r)) : Fault parts r
  | badPattern {kind : Kind} {e : Grammar.Error} (ofKind : Kind.parse parts.action = .ok kind)
      (bad : Grammar.parse parts.pattern = .error e) : Fault parts (.badPattern parts.pattern e)
  | emptyPattern {kind : Kind} (ofKind : Kind.parse parts.action = .ok kind)
      (empty : Grammar.parse parts.pattern = .ok []) : Fault parts .emptyPattern
  | condition {kind : Kind} {tokens : List Token} {r : Refusal}
      (ofKind : Kind.parse parts.action = .ok kind) (ofPattern : Grammar.parse parts.pattern = .ok tokens)
      (some : tokens ≠ []) (refused : Condition.parse parts.condition = .error (.refused r)) : Fault parts r

/-- Texts that are not beyond reading: the interval has no more digits than a number may have, and an
    expression that is looked at either compiles or is invalid. -/
structure Parts.Readable (parts : Parts) : Prop where
  interval : ∀ digits, Kind.digits? parts.action = some digits → digits.length ≤ Text.digitLimit
  expression : ∀ kind tokens, Kind.parse parts.action = .ok kind → Grammar.parse parts.pattern = .ok tokens →
    tokens ≠ [] → ∀ regex, Condition.expression? parts.condition = some regex →
      (∃ compiled, Regex.compile regex = .ok compiled) ∨
        ∃ cause position, Regex.compile regex = .error (.invalid cause position)

section

variable {parts : Parts}

theorem Parts.Readable.not_beyond (readable : parts.Readable) (limit : Limit) : ¬parts.Beyond limit := by
  rintro (⟨writes, long⟩ | ⟨ofKind, ofPattern, some, writes, fails, beyond⟩)
  · exact absurd (readable.interval _ writes) (Nat.not_le.mpr long)
  · rcases readable.expression _ _ ofKind ofPattern some _ writes with ⟨_, compiles⟩ | ⟨_, _, invalid⟩
    · cases compiles.symm.trans fails
    · cases invalid.symm.trans fails
      cases beyond

theorem ofParts_eq_fault {r : Refusal} : ofParts parts = .error (.refused r) ↔ parts.Fault r := by
  rw [ofParts_eq]
  constructor
  · intro refused
    split at refused
    · rename_i ofKind
      cases refused
      exact .action ofKind
    · rename_i ofKind bad
      cases refused
      exact .badPattern ofKind bad
    · rename_i ofKind empty
      cases refused
      exact .emptyPattern ofKind empty
    · rename_i ofKind ofPattern
      exact .condition ofKind ofPattern (List.cons_ne_nil _ _) (map_eq_error.mp refused)
  · rintro (refused | ⟨ofKind, bad⟩ | ⟨ofKind, empty⟩ | ⟨ofKind, ofPattern, some, refused⟩)
    · rw [refused]
    · rw [ofKind, bad]
    · rw [ofKind, empty]
    · obtain ⟨t, tokens, rfl⟩ := List.exists_cons_of_ne_nil some
      rw [ofKind, ofPattern]
      exact map_eq_error.mpr refused

theorem valid_iff : parts.Valid ↔ ∃ a, ofParts parts = .ok a := by
  constructor
  · rintro ⟨⟨kind, ofKind⟩, ⟨tokens, ofPattern, some⟩, condition, ofCondition⟩
    obtain ⟨t, tokens, rfl⟩ := List.exists_cons_of_ne_nil some
    rw [ofParts_eq, ofKind, ofPattern, ofCondition]
    exact ⟨_, rfl⟩
  · rintro ⟨a, read⟩
    obtain ⟨kind, tokens, condition, ofKind, ofPattern, ofCondition, _⟩ := parts_of_ofParts read
    refine ⟨⟨kind, ofKind⟩, ⟨tokens, ofPattern, ?_⟩, condition, ofCondition⟩
    rintro rfl
    rw [ofParts_eq, ofKind, ofPattern] at read
    cases read

theorem Parts.Fault.not_valid {r : Refusal} (fault : parts.Fault r) : ¬parts.Valid := by
  rw [valid_iff]
  rintro ⟨a, read⟩
  cases (ofParts_eq_fault.mpr fault).symm.trans read

end

section

variable {text : List Char} {x y : Parts}

theorem Parts.Split.length_ne (split : x.Split text) (split' : y.Split text) (apart : x ≠ y) :
    x.action.length ≠ y.action.length := by
  have symmetric : Std.Symm fun x y : Parts => x.action.length ≠ y.action.length := ⟨fun _ _ => Ne.symm⟩
  have lengths := (splits_pairwise text).imp fun shorter => Nat.ne_of_lt shorter
  exact lengths.forall (mem_splits.mpr split) (mem_splits.mpr split') apart

theorem exists_split_iff : (∃ parts : Parts, parts.Split text) ↔ 2 ≤ text.count ',' := by
  constructor
  · rintro ⟨parts, rfl, _⟩
    simp only [Parts.joined, List.count_append, List.count_cons_self]
    omega
  · intro two
    have comma : ',' ∈ text := List.count_pos_iff.mp (Nat.lt_of_succ_lt two)
    obtain ⟨action, rest, rfl, before⟩ := List.eq_append_cons_of_mem comma
    rw [List.count_append, List.count_cons_self, List.count_eq_zero.mpr before] at two
    have another : ',' ∈ rest := List.count_pos_iff.mp (by omega)
    obtain ⟨pattern, condition, rfl, within⟩ := List.eq_append_cons_of_mem another
    exact ⟨⟨String.ofList action, String.ofList pattern, String.ofList condition⟩, by simp [Parts.joined],
      by simpa using within⟩

theorem exists_last_split (two : 2 ≤ text.count ',') :
    ∃ parts : Parts, (splits text).getLast? = some parts ∧ parts.Split text ∧
      ∀ other : Parts, other.Split text → other ≠ parts → other.action.length < parts.action.length := by
  obtain ⟨any, split⟩ := exists_split_iff.mpr two
  obtain ⟨before, last, whole⟩ := (List.eq_nil_or_concat' (splits text)).resolve_left
    (List.ne_nil_of_mem (mem_splits.mpr split))
  have ordered := splits_pairwise text
  rw [whole, List.pairwise_append] at ordered
  refine ⟨last, by simp [whole], mem_splits.mp (by simp [whole]), fun other split' apart => ?_⟩
  have among := mem_splits.mpr split'
  rw [whole, List.mem_append, List.mem_singleton] at among
  exact ordered.2.2 other (among.resolve_right apart) last List.mem_cons_self

/-- A split that is tried: all with a shorter text of an action have a fault. -/
structure Parts.Tried (text : List Char) (parts : Parts) : Prop where
  split : parts.Split text
  first : ∀ other : Parts, other.Split text → other.action.length < parts.action.length → ∃ r, other.Fault r

theorem fault_or_taken (readable : ∀ parts, Parts.Tried text parts → parts.Readable) :
    (∀ parts : Parts, parts.Split text → ∃ r, parts.Fault r) ∨
      ∃ parts a, Parts.Tried text parts ∧ ofParts parts = .ok a := by
  have each := forall_or_reaches (fun parts : Parts => ∃ r, parts.Fault r) (splits text)
  rw [reaches_iff_of_pairwise (splits_pairwise text) fun _ _ => Nat.lt_asymm] at each
  simp only [mem_splits] at each
  refine each.imp_right fun ⟨parts, split, whole, first⟩ => ?_
  have tried : Parts.Tried text parts := ⟨split, first⟩
  cases read : ofParts parts with
  | ok a => exact ⟨parts, a, tried, read⟩
  | error e =>
    cases e with
    | refused r => exact absurd ⟨r, ofParts_eq_fault.mp read⟩ whole
    | beyond limit => exact absurd (ofParts_eq_beyond.mp read) ((readable parts tried).not_beyond limit)

end

theorem firstOf_of_fault {ways : List Parts} (all : ∀ parts ∈ ways, ∃ r, parts.Fault r) (refusal : Refusal) :
    ∃ r, firstOf refusal ways = .error (.refused r) ∧ (ways = [] → r = refusal) ∧
      ∀ parts, ways.getLast? = some parts → parts.Fault r := by
  induction ways generalizing refusal with
  | nil => exact ⟨refusal, rfl, fun _ => rfl, nofun⟩
  | cons parts rest ih =>
    obtain ⟨⟨r, fault⟩, later⟩ := List.forall_mem_cons.mp all
    obtain ⟨r', read, none, last⟩ := ih later r
    refine ⟨r', by simp only [firstOf, ofParts_eq_fault.mpr fault, read], nofun, fun other ends => ?_⟩
    cases rest with
    | nil =>
      obtain rfl : parts = other := Option.some.inj ends
      exact none rfl ▸ fault
    | cons next rest => exact last other (List.getLast?_cons_cons ▸ ends)

section

variable {line : String} {text : List Char}

theorem parseLine_of_begins (begins : line.toList = "action=".toList ++ text) :
    parseLine line = firstOf (.missingParts line) (splits text) := by
  have starts : "action=".toList.isPrefixOf line.toList = true := by
    rw [begins, List.isPrefixOf_iff_prefix]
    exact List.prefix_append _ _
  unfold parseLine
  dsimp only
  rw [if_pos starts, begins, List.drop_left]

theorem parseLine_eq_ok_of_begins (begins : line.toList = "action=".toList ++ text) {a : Action} :
    parseLine line = .ok a ↔ ∃ parts, Parts.Tried text parts ∧ ofParts parts = .ok a := by
  simp only [parseLine_eq_ok, ofParts_eq_fault]
  constructor
  · rintro ⟨_, same, parts, split, read, first⟩
    obtain rfl := List.append_cancel_left (begins.symm.trans same)
    exact ⟨parts, ⟨split, first⟩, read⟩
  · rintro ⟨parts, tried, read⟩
    exact ⟨text, begins, parts, tried.split, read, tried.first⟩

/-- A line with a fault in all its splits is refused: with two commas or more for the fault of the split with
    the longest text of an action, and otherwise for the parts that are missing. -/
theorem parseLine_of_fault (begins : line.toList = "action=".toList ++ text)
    (all : ∀ parts : Parts, parts.Split text → ∃ r, parts.Fault r) :
    ∃ r, parseLine line = .error (.refused r) ∧
      (2 ≤ text.count ',' → ∃ parts : Parts, parts.Split text ∧
        (∀ other : Parts, other.Split text → other ≠ parts → other.action.length < parts.action.length) ∧
        parts.Fault r) ∧
      (text.count ',' < 2 → r = .missingParts line) := by
  obtain ⟨r, refused, none, last⟩ :=
    firstOf_of_fault (fun parts among => all parts (mem_splits.mp among)) (.missingParts line)
  refine ⟨r, (parseLine_of_begins begins).trans refused, fun two => ?_, fun few => none ?_⟩
  · obtain ⟨parts, ends, split, longest⟩ := exists_last_split two
    exact ⟨parts, split, longest, last parts ends⟩
  · refine List.eq_nil_iff_forall_not_mem.mpr fun parts among => ?_
    exact absurd (exists_split_iff.mp ⟨parts, mem_splits.mp among⟩) (Nat.not_le.mpr few)

/-- A line that begins as an action, as far as what is tried of it can be read. It is taken just if one of its
    splits says an action, and as the one of these with the shortest text of an action says it. If there is
    none, it is refused: with two commas or more for the fault of the split with the longest text of an action,
    and otherwise for the parts that are missing. -/
theorem parseLine_leftmost (begins : line.toList = "action=".toList ++ text)
    (readable : ∀ parts, Parts.Tried text parts → parts.Readable) :
    ((∃ a, parseLine line = .ok a) ↔ ∃ parts : Parts, parts.Split text ∧ parts.Valid) ∧
    (∀ a, parseLine line = .ok a → ∃ parts : Parts, parts.Split text ∧ parts.Valid ∧
      (∀ other : Parts, other.Split text → other.Valid → other ≠ parts →
        parts.action.length < other.action.length) ∧
      a.ReadFrom parts ∧ a.conditionText = String.ofList (Text.strip parts.condition.toList)) ∧
    ((∀ parts : Parts, parts.Split text → ¬parts.Valid) → ∃ r, parseLine line = .error (.refused r) ∧
      (2 ≤ text.count ',' → ∃ parts : Parts, parts.Split text ∧
        (∀ other : Parts, other.Split text → other ≠ parts → other.action.length < parts.action.length) ∧
        parts.Fault r) ∧
      (text.count ',' < 2 → r = .missingParts line)) := by
  have taken {a : Action} := parseLine_eq_ok_of_begins (a := a) begins
  refine ⟨⟨?_, ?_⟩, fun a read => ?_, fun none => ?_⟩
  · rintro ⟨a, read⟩
    obtain ⟨parts, tried, own⟩ := taken.mp read
    exact ⟨parts, tried.split, valid_iff.mpr ⟨a, own⟩⟩
  · rintro ⟨parts, split, valid⟩
    rcases fault_or_taken readable with all | ⟨first, a, tried, read⟩
    · obtain ⟨r, fault⟩ := all parts split
      exact absurd valid fault.not_valid
    · exact ⟨a, taken.mpr ⟨first, tried, read⟩⟩
  · obtain ⟨parts, tried, own⟩ := taken.mp read
    refine ⟨parts, tried.split, valid_iff.mpr ⟨a, own⟩, fun other split valid apart => ?_,
      readFrom_of_ofParts own, conditionText_of_ofParts own⟩
    -- A shorter one would have been taken, and one of the same length would be the same.
    by_contra notLonger
    have shorter := Nat.lt_of_le_of_ne (Nat.not_lt.mp notLonger) (split.length_ne tried.split apart)
    obtain ⟨r, fault⟩ := tried.first other split shorter
    exact fault.not_valid valid
  · rcases fault_or_taken readable with all | ⟨parts, a, tried, read⟩
    · exact parseLine_of_fault begins all
    · exact absurd (valid_iff.mpr ⟨a, read⟩) (none parts tried.split)

theorem parseLine_leftmost_commas :
    let line := "action=cmd(printf '%s,%s' a b),vd(vu),app(^(foo|bar),baz$)"
    let text := "cmd(printf '%s,%s' a b),vd(vu),app(^(foo|bar),baz$)".toList
    line.toList = "action=".toList ++ text ∧ (∀ parts, Parts.Tried text parts → parts.Readable) ∧
      ∃ a, parseLine line = .ok a ∧ ∃ parts : Parts, parts.Split text ∧ parts.Valid ∧ a.ReadFrom parts := by
  intro line text
  have begins : line.toList = "action=".toList ++ text := by decide +kernel
  have plain : ∀ parts ∈ splits text, Kind.digits? parts.action = none := by decide +kernel
  have compile : ∀ parts ∈ splits text, ∀ regex ∈ Condition.expression? parts.condition,
      (Regex.compile regex).toBool = true := by decide +kernel
  have readable : ∀ parts, Parts.Tried text parts → parts.Readable := by
    intro parts tried
    have among := mem_splits.mpr tried.split
    refine ⟨fun digits writes => ?_, fun _ _ _ _ _ regex writes => .inl ?_⟩
    · cases (plain parts among).symm.trans writes
    · have compiles := compile parts among regex writes
      cases done : Regex.compile regex with
      | ok compiled => exact ⟨compiled, rfl⟩
      | error e => simp [done, Except.toBool] at compiles
  obtain ⟨taken, chosen, _⟩ := parseLine_leftmost begins readable
  have own : ofParts ⟨"cmd(printf '%s,%s' a b)", "vd(vu)", "app(^(foo|bar),baz$)"⟩ =
      .ok ⟨"cmd(printf '%s,%s' a b)", .shell "printf '%s,%s' a b",
        [Button.volumeDown.token .press, Button.volumeUp.token .press, Button.volumeUp.token .release,
          Button.volumeDown.token .release], .app "^(foo|bar),baz$", "app(^(foo|bar),baz$)"⟩ := by
    decide +kernel
  obtain ⟨a, read⟩ := taken.mpr ⟨_, ⟨by decide +kernel, by decide +kernel⟩, valid_iff.mpr ⟨_, own⟩⟩
  obtain ⟨parts, split, valid, _, from_, _⟩ := chosen a read
  exact ⟨begins, readable, a, read, parts, split, valid, from_⟩

end

end Action

end Gesture
