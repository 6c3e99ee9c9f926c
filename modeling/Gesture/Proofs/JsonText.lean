import Gesture.Json.Parser
import Gesture.Json.Printer
import Gesture.Proofs.Apart

namespace Gesture

namespace Text

theorem hexValue?_hexDigit {value : Nat} (small : value < 16) : hexValue? (hexDigit value) = some value := by
  revert value
  decide

end Text

namespace Json

theorem skipSpace_eq (text : List Char) : (skipSpace text).1 = text.dropWhile isSpace := by
  induction text with
  | nil => rfl
  | cons c text ih =>
    by_cases space : isSpace c = true
    · rw [List.dropWhile_cons_of_pos space, ← ih]
      exact congrArg Subtype.val (if_pos space)
    · rw [List.dropWhile_cons_of_neg space]
      exact congrArg Subtype.val (if_neg space)

theorem dropWhile_newLine (level : Nat) (text : List Char) :
    (newLine level ++ text).dropWhile isSpace = text.dropWhile isSpace := by
  refine List.dropWhile_append_of_pos fun c member => ?_
  rcases List.mem_cons.mp member with rfl | member
  · decide
  · rw [List.eq_of_mem_replicate member]
    decide

def ReadsText (text : List Char) (s : CodeText) (rest : List Char) : Prop :=
  ∀ opening, ∃ short, readText opening text = .ok (s, ⟨rest, short⟩)

section

variable {text rest : List Char} {s : CodeText}

theorem ReadsText.quote : ReadsText ('"' :: rest) [] rest :=
  fun opening => ⟨_, readText_quote opening rest⟩

theorem ReadsText.ne_nil (reads : ReadsText text s rest) : ∃ c more, text = c :: more := by
  cases text with
  | nil =>
    obtain ⟨_, read⟩ := reads 0
    rw [readText] at read
    cases read
  | cons c more => exact ⟨c, more, rfl⟩

theorem ReadsText.escaped {c plain : Char} (reads : ReadsText text s rest) (escape : escaped? c = some plain) :
    ReadsText ('\\' :: c :: text) (.char plain :: s) rest := by
  intro opening
  obtain ⟨short, read⟩ := reads opening
  have other : c ≠ 'u' := by
    rintro rfl
    cases escape
  refine ⟨Nat.le_trans short (length_le_escape _ _ _), ?_⟩
  rw [readText, escape]
  · dsimp only
    rw [read]
    rfl
  · exact fun _ _ _ _ _ _ same _ => other same
  · exact other

theorem ReadsText.plain {c : Char} (reads : ReadsText text s rest) (quote : c ≠ '"') (escape : c ≠ '\\')
    (plain : 0x20 ≤ c.toNat) : ReadsText (c :: text) (.char c :: s) rest := by
  intro opening
  obtain ⟨short, read⟩ := reads opening
  refine ⟨Nat.le_trans short (length_le_cons _ _), ?_⟩
  rw [readText, if_neg (by omega), read]
  · rfl
  · exact quote
  · exact fun same _ => escape same
  · exact fun _ _ _ _ _ _ same _ => escape same
  · exact fun _ same _ => escape same
  · exact fun _ _ same _ => escape same

theorem readsText_plain {text : List Char} (rest : List Char)
    (plain : ∀ c ∈ text, c ≠ '"' ∧ c ≠ '\\' ∧ 0x20 ≤ c.toNat) :
    ReadsText (text ++ '"' :: rest) (text.map .char) rest := by
  induction text with
  | nil => exact .quote
  | cons c text ih =>
    obtain ⟨⟨quote, escape, large⟩, plain⟩ := List.forall_mem_cons.mp plain
    exact (ih plain).plain quote escape large

theorem hexValue4?_hexDigits (code : Nat) (small : code < 0x10000) :
    ∃ a b c d, Text.hexDigits 4 code = [a, b, c, d] ∧ hexValue4? a b c d = some code := by
  refine ⟨_, _, _, _, rfl, ?_⟩
  unfold hexValue4?
  iterate 4 rw [Text.hexValue?_hexDigit (Nat.mod_lt _ (by decide))]
  simp only [Option.bind_eq_bind, Option.bind_some, Option.pure_def, Option.some.injEq]
  omega

theorem ReadsText.code (used : Nat) {code : Nat} {a b c d e : Char} {more : List Char} {p : CodePoint}
    (reads : ReadsText ((e :: more).drop used) s rest) (value : hexValue4? a b c d = some code)
    (one : codePoint code (e :: more) = .ok (p, used)) :
    ReadsText ('\\' :: 'u' :: a :: b :: c :: d :: e :: more) (p :: s) rest := by
  intro opening
  obtain ⟨short, read⟩ := reads opening
  refine ⟨Nat.le_trans short (length_le_codeEscape _ _ a b c d e more used), ?_⟩
  rw [readText, value]
  dsimp only
  rw [one]
  dsimp only
  rw [read]
  rfl

theorem toNat_lt (c : Char) : c.toNat < 0x110000 := by
  have same : c.toNat = c.val.toNat := rfl
  rcases c.valid with below | ⟨_, below⟩ <;> omega

theorem surrogate_code (p : CodePoint) :
    isHighSurrogate p.code = p.isHigh ∧ isLowSurrogate p.code = p.isLow := by
  simp only [Bool.eq_iff_iff (b := p.isHigh), Bool.eq_iff_iff (b := p.isLow), isHighSurrogate, isLowSurrogate,
    Bool.and_eq_true, decide_eq_true_eq]
  cases p with
  | char c =>
    have outside := CodePoint.toNat_outside c
    simp only [CodePoint.code, CodePoint.isHigh, CodePoint.isLow, Bool.false_eq_true, iff_false]
    omega
  | half offset =>
    simp only [CodePoint.code, CodePoint.isHigh, CodePoint.isLow, decide_eq_true_eq]
    omega

def NoLow (text : List Char) : Prop :=
  ∀ a b c d e more, text = '\\' :: 'u' :: a :: b :: c :: d :: e :: more →
    ∃ code, hexValue4? a b c d = some code ∧ isLowSurrogate code = false

theorem codePoint_code (p : CodePoint) (next : p.isHigh = true → NoLow text) :
    codePoint p.code text = .ok (p, 0) := by
  unfold codePoint
  rw [(surrogate_code p).1, CodePoint.ofUnit_code]
  split
  · rename_i a b c d e more
    split
    · rename_i high
      obtain ⟨code, value, other⟩ := next high a b c d e more rfl
      rw [value]
      dsimp only
      rw [other, if_neg Bool.false_ne_true]
    · rfl
  · rfl

theorem ReadsText.unit {p : CodePoint} (reads : ReadsText text s rest) (small : p.code < 0x10000)
    (next : p.isHigh = true → NoLow text) : ReadsText (unitEscape p.code ++ text) (p :: s) rest := by
  obtain ⟨x₁, x₂, x₃, x₄, digits, value⟩ := hexValue4?_hexDigits p.code small
  obtain ⟨e, more, rfl⟩ := reads.ne_nil
  rw [unitEscape, digits]
  exact ReadsText.code 0 reads value (codePoint_code p next)

theorem codePoint_pair {c a₁ a₂ a₃ a₄ e : Char} {more : List Char} (large : 0x10000 ≤ c.toNat)
    (value : hexValue4? a₁ a₂ a₃ a₄ = some (0xDC00 + (c.toNat - 0x10000) % 0x400)) :
    codePoint (0xD800 + (c.toNat - 0x10000) / 0x400) ('\\' :: 'u' :: a₁ :: a₂ :: a₃ :: a₄ :: e :: more) =
      .ok (.char c, 6) := by
  have bound := toNat_lt c
  have high : isHighSurrogate (0xD800 + (c.toNat - 0x10000) / 0x400) = true := by
    simp only [isHighSurrogate, Bool.and_eq_true, decide_eq_true_eq]
    omega
  have low : isLowSurrogate (0xDC00 + (c.toNat - 0x10000) % 0x400) = true := by
    simp only [isLowSurrogate, Bool.and_eq_true, decide_eq_true_eq]
    omega
  have whole : 0x10000 + (0xD800 + (c.toNat - 0x10000) / 0x400 - 0xD800) * 0x400 +
      (0xDC00 + (c.toNat - 0x10000) % 0x400 - 0xDC00) = c.toNat := by
    omega
  rw [codePoint, if_pos high, value]
  dsimp only
  rw [if_pos low, whole, Char.ofNat_toNat]

theorem ReadsText.pair {c : Char} (reads : ReadsText text s rest) (large : 0x10000 ≤ c.toNat) :
    ReadsText (unitEscape (0xD800 + (c.toNat - 0x10000) / 0x400) ++
      unitEscape (0xDC00 + (c.toNat - 0x10000) % 0x400) ++ text) (.char c :: s) rest := by
  have bound := toNat_lt c
  obtain ⟨x₁, x₂, x₃, x₄, digits, value⟩ :=
    hexValue4?_hexDigits (0xD800 + (c.toNat - 0x10000) / 0x400) (by omega)
  obtain ⟨y₁, y₂, y₃, y₄, digits', value'⟩ :=
    hexValue4?_hexDigits (0xDC00 + (c.toNat - 0x10000) % 0x400) (by omega)
  obtain ⟨e, more, rfl⟩ := reads.ne_nil
  rw [unitEscape, unitEscape, digits, digits']
  exact ReadsText.code 6 reads value (codePoint_pair large value')

theorem ReadsText.escapeChar (reads : ReadsText text s rest) (c : Char) :
    ReadsText (Json.escapeChar c ++ text) (.char c :: s) rest := by
  unfold Json.escapeChar
  split_ifs with mark same same same same same plain small
  · rcases mark with rfl | rfl <;> exact reads.escaped rfl
  · exact same ▸ reads.escaped rfl
  · exact same ▸ reads.escaped rfl
  · exact same ▸ reads.escaped rfl
  · exact same ▸ reads.escaped rfl
  · exact same ▸ reads.escaped rfl
  · rw [not_or] at mark
    exact reads.plain mark.1 mark.2 plain.1
  · exact reads.unit (p := .char c) small nofun
  · exact reads.pair (by omega)

theorem noLow_cons {c : Char} (other : c ≠ '\\') (text : List Char) : NoLow (c :: text) :=
  fun _ _ _ _ _ _ same => absurd (List.cons.inj same).1 other

theorem noLow_escape {c : Char} (other : c ≠ 'u') (text : List Char) : NoLow ('\\' :: c :: text) :=
  fun _ _ _ _ _ _ same => absurd (List.cons.inj (List.cons.inj same).2).1 other

theorem noLow_unitEscape {code : Nat} (small : code < 0x10000) (other : isLowSurrogate code = false)
    (text : List Char) : NoLow (unitEscape code ++ text) := by
  obtain ⟨x₁, x₂, x₃, x₄, digits, value⟩ := hexValue4?_hexDigits code small
  intro a b c d e more same
  rw [unitEscape, digits] at same
  simp only [List.cons_append, List.cons.injEq, true_and, List.nil_append] at same
  obtain ⟨rfl, rfl, rfl, rfl, _⟩ := same
  exact ⟨code, value, other⟩

theorem noLow_escapePoint {p : CodePoint} (other : p.isLow = false) (text : List Char) :
    NoLow (escapePoint p ++ text) := by
  cases p with
  | half offset =>
    exact noLow_unitEscape (by simp only [CodePoint.code]; omega) ((surrogate_code _).2.trans other) text
  | char c =>
    have bound := toNat_lt c
    unfold escapePoint Json.escapeChar
    dsimp only
    split_ifs with mark same same same same same plain small
    · rcases mark with rfl | rfl <;> exact noLow_escape (by decide) _
    · exact noLow_escape (by decide) _
    · exact noLow_escape (by decide) _
    · exact noLow_escape (by decide) _
    · exact noLow_escape (by decide) _
    · exact noLow_escape (by decide) _
    · exact noLow_cons (fun same => mark (.inr same)) _
    · exact noLow_unitEscape small (surrogate_code (.char c)).2 text
    · rw [List.append_assoc]
      refine noLow_unitEscape (by omega) ?_ _
      simp only [isLowSurrogate, Bool.and_eq_false_iff, decide_eq_false_iff_not]
      omega

theorem readsText_literal (rest : List Char) (apart : s.Apart) :
    ReadsText (s.flatMap escapePoint ++ '"' :: rest) s rest := by
  induction s with
  | nil => exact .quote
  | cons p s ih =>
    obtain ⟨next, rest_apart⟩ := CodeText.apart_cons.mp apart
    rw [List.flatMap_cons, List.append_assoc]
    cases p with
    | char c => exact (ih rest_apart).escapeChar c
    | half offset =>
      refine (ih rest_apart).unit (by simp only [CodePoint.code]; omega) fun high => ?_
      -- What comes next is the closing quote or a point that is no low half.
      cases s with
      | nil => exact noLow_cons (by decide) _
      | cons q s =>
        rw [List.flatMap_cons, List.append_assoc]
        exact noLow_escapePoint (next high q rfl) _

end

def Reads (room : Nat) (text : List Char) (v : Json) (rest : List Char) : Prop :=
  ∃ short, value room text = .ok (v, ⟨rest, short⟩)

def ReadsItems (room : Nat) (text : List Char) (vs : List Json) (rest : List Char) : Prop :=
  ∃ short, items room text = .ok (vs, ⟨rest, short⟩)

/-- A text starts with members and a closing brace, after which `rest` is left; together with the members
    `before` they are `ms`. -/
def ReadsMembers (room : Nat) (text : List Char) (before ms : List (CodeText × Json)) (rest : List Char) : Prop :=
  ∃ short, members room text before = .ok (ms, ⟨rest, short⟩)

section

variable {room : Nat} {text start more next rest : List Char} {v : Json}

theorem skipSpace_of (text : List Char) (same : text.dropWhile isSpace = start) : ∃ short, skipSpace text = ⟨start, short⟩ := by
  subst same
  exact ⟨skipSpace_eq text ▸ (skipSpace text).2, Subtype.ext (skipSpace_eq text)⟩

theorem Reads.str {s : CodeText} (reads : ReadsText text s rest) : Reads room ('"' :: text) (.str s) rest := by
  obtain ⟨_, read⟩ := reads (text.length + 1)
  unfold Reads
  rw [value, read]
  exact ⟨_, rfl⟩

theorem Reads.noItems (closed : text.dropWhile isSpace = ']' :: rest) :
    Reads (room + 1) ('[' :: text) (.array []) rest := by
  obtain ⟨_, skipped⟩ := skipSpace_of _ closed
  unfold Reads
  rw [value, skipped]
  exact ⟨_, rfl⟩

theorem Reads.array {vs : List Json} {c : Char} (skips : text.dropWhile isSpace = c :: start) (other : c ≠ ']')
    (reads : ReadsItems room (c :: start) vs rest) : Reads (room + 1) ('[' :: text) (.array vs) rest := by
  obtain ⟨_, skipped⟩ := skipSpace_of _ skips
  obtain ⟨_, read⟩ := reads
  unfold Reads
  rw [value, skipped]
  dsimp only
  rw [if_neg (by simpa using other), read]
  exact ⟨_, rfl⟩

theorem ReadsItems.last (reads : Reads room text v more) (closed : more.dropWhile isSpace = ']' :: rest) :
    ReadsItems room text [v] rest := by
  obtain ⟨_, read⟩ := reads
  obtain ⟨_, skipped⟩ := skipSpace_of _ closed
  unfold ReadsItems
  rw [items, read]
  dsimp only
  rw [skipped]
  exact ⟨_, rfl⟩

theorem ReadsItems.cons {vs : List Json} (reads : Reads room text v more)
    (comma : more.dropWhile isSpace = ',' :: next) (others : ReadsItems room (next.dropWhile isSpace) vs rest) :
    ReadsItems room text (v :: vs) rest := by
  obtain ⟨_, read⟩ := reads
  obtain ⟨_, skipped⟩ := skipSpace_of _ comma
  obtain ⟨_, blank⟩ := skipSpace_of (',' :: next).tail rfl
  obtain ⟨_, follow⟩ : ReadsItems room ((',' :: next).tail.dropWhile isSpace) vs rest := others
  unfold ReadsItems
  rw [items, read]
  dsimp only
  rw [skipped]
  dsimp only
  rw [if_neg (by simp), if_pos (by rfl), blank]
  dsimp only
  rw [follow]
  exact ⟨_, rfl⟩

theorem Reads.noMembers (closed : text.dropWhile isSpace = '\x7d' :: rest) :
    Reads (room + 1) ('\x7b' :: text) (.object []) rest := by
  obtain ⟨_, skipped⟩ := skipSpace_of _ closed
  unfold Reads
  rw [value, skipped]
  exact ⟨_, rfl⟩

theorem Reads.object {ms : List (CodeText × Json)} (skips : text.dropWhile isSpace = '"' :: start)
    (reads : ReadsMembers room ('"' :: start) [] ms rest) : Reads (room + 1) ('\x7b' :: text) (.object ms) rest := by
  obtain ⟨_, skipped⟩ := skipSpace_of _ skips
  obtain ⟨_, read⟩ := reads
  unfold Reads
  rw [value, skipped]
  dsimp only
  rw [if_neg (by simp), read]
  exact ⟨_, rfl⟩

inductive ReadsMember (room : Nat) : List Char → CodeText → Json → List Char → Prop
  | intro {opening after start more : List Char} {name : CodeText} {v : Json} (named : ReadsText opening name after)
      (colon : after.dropWhile isSpace = ':' :: start) (reads : Reads room (start.dropWhile isSpace) v more) :
      ReadsMember room ('"' :: opening) name v more

variable {before ms : List (CodeText × Json)} {name : CodeText}

theorem readsMembers_iff : ReadsMembers room text before ms rest ↔
    (members room text before).map (fun read => (read.1, read.2.1)) = .ok (ms, rest) := by
  unfold ReadsMembers
  cases members room text before with
  | error e => exact ⟨nofun, nofun⟩
  | ok read =>
    obtain ⟨ms', rest', short⟩ := read
    constructor
    · rintro ⟨_, same⟩
      cases same
      rfl
    · intro same
      cases same
      exact ⟨short, rfl⟩

theorem members_of_member (before : List (CodeText × Json)) (member : ReadsMember room text name v more) :
    (members room text before).map (fun read => (read.1, read.2.1)) =
      let read := setMember name v before
      let after := more.dropWhile isSpace
      if after.head? = some '\x7d' then .ok (read, after.tail)
      else if after.head? = some ',' then
        (members room (after.tail.dropWhile isSpace) read).map fun read => (read.1, read.2.1)
      else .error (.fault .expectingComma after.length) := by
  obtain @⟨opening, after, start, more, name, v, named, colon, reads⟩ := member
  obtain ⟨_, ofName⟩ : ∃ short, readText ('"' :: opening).length ('"' :: opening).tail = .ok (name, ⟨after, short⟩) :=
    named _
  obtain ⟨_, ofColon⟩ := skipSpace_of _ colon
  obtain ⟨_, blank⟩ := skipSpace_of (':' :: start).tail rfl
  obtain ⟨_, read⟩ : Reads room ((':' :: start).tail.dropWhile isSpace) v more := reads
  obtain ⟨_, skipped⟩ := skipSpace_of more rfl
  rw [members, if_pos (by rfl), ofName]
  dsimp only
  rw [ofColon]
  dsimp only
  rw [if_pos (by rfl), blank]
  dsimp only
  rw [read]
  dsimp only
  rw [skipped]
  dsimp only
  split
  · rfl
  · split
    · obtain ⟨_, blank'⟩ := skipSpace_of (more.dropWhile isSpace).tail rfl
      rw [blank']
      dsimp only
      cases members room ((more.dropWhile isSpace).tail.dropWhile isSpace) (setMember name v before) <;> rfl
    · rfl

theorem ReadsMembers.last (before : List (CodeText × Json)) (member : ReadsMember room text name v more)
    (closed : more.dropWhile isSpace = '\x7d' :: rest) :
    ReadsMembers room text before (setMember name v before) rest := by
  rw [readsMembers_iff, members_of_member before member, closed]
  rfl

theorem ReadsMembers.cons (member : ReadsMember room text name v more)
    (comma : more.dropWhile isSpace = ',' :: next)
    (others : ReadsMembers room (next.dropWhile isSpace) (setMember name v before) ms rest) :
    ReadsMembers room text before ms rest := by
  rw [readsMembers_iff, members_of_member before member, comma]
  exact readsMembers_iff.mp others

end

theorem Reads.word {room : Nat} {c : Char} (word : List Char) {rest : List Char} {v : Json}
    (first : wordValues.find? (·.1.isPrefixOf (c :: word ++ rest)) = some (c :: word, v))
    (quote : c ≠ '"') (bracket : c ≠ '[') (brace : c ≠ '\x7b') : Reads room (c :: word ++ rest) v rest := by
  have left : (c :: word ++ rest).drop (c :: word).length = rest := List.drop_left
  have short : rest.length < (c :: word ++ rest).length := by
    rw [List.length_append, List.length_cons]
    omega
  have shorter : ((c :: word ++ rest).drop (c :: word).length).length < (c :: word ++ rest).length := by
    rwa [left]
  have read : scalar (c :: word ++ rest) = .ok (v, ⟨_, shorter⟩) := by
    unfold scalar
    rw [first]
    exact dif_pos shorter
  refine ⟨short, (value_scalar room (word ++ rest) quote bracket brace).trans (read.trans ?_)⟩
  exact congrArg Except.ok (Prod.ext rfl (Subtype.ext left))

theorem Reads.null (room : Nat) (rest : List Char) : Reads room ("null".toList ++ rest) .null rest :=
  Reads.word ['u', 'l', 'l'] rfl (by decide) (by decide) (by decide)

theorem Reads.bool (room : Nat) (b : Bool) (rest : List Char) :
    Reads room ((if b then "true".toList else "false".toList) ++ rest) (.bool b) rest := by
  cases b with
  | true => exact Reads.word ['r', 'u', 'e'] rfl (by decide) (by decide) (by decide)
  | false => exact Reads.word ['a', 'l', 's', 'e'] rfl (by decide) (by decide) (by decide)

/-- Values that are written and read again: without numbers, with different names for the members of each
    object, with no half of a pair before its other half, and nested no deeper than there is room. -/
inductive Plain : Nat → Json → Prop
  | null {room : Nat} : Plain room .null
  | bool {room : Nat} (b : Bool) : Plain room (.bool b)
  | str {room : Nat} {t : CodeText} (apart : t.Apart) : Plain room (.str t)
  | array {room : Nat} {items : List Json} (inner : ∀ v ∈ items, Plain room v) : Plain (room + 1) (.array items)
  | object {room : Nat} {members : List (CodeText × Json)} (names : (members.map (·.1)).Nodup)
      (apart : ∀ m ∈ members, m.1.Apart) (inner : ∀ m ∈ members, Plain room m.2) :
      Plain (room + 1) (.object members)

theorem Plain.of_le {room more : Nat} {v : Json} (plain : Plain room v) (le : room ≤ more) : Plain more v := by
  induction plain generalizing more with
  | null => exact .null
  | bool b => exact .bool b
  | str apart => exact .str apart
  | array inner ih =>
    obtain ⟨more, rfl⟩ := Nat.exists_eq_add_of_lt le
    exact .array fun v member => ih v member (by omega)
  | object names apart inner ih =>
    obtain ⟨more, rfl⟩ := Nat.exists_eq_add_of_lt le
    exact .object names apart fun m member => ih m member (by omega)

theorem textLiteral_append (t : CodeText) (rest : List Char) :
    textLiteral t ++ rest = '"' :: (t.flatMap escapePoint ++ '"' :: rest) := by
  simp [textLiteral]

theorem Reads.literal (room : Nat) {t : CodeText} (apart : t.Apart) (rest : List Char) :
    Reads room (textLiteral t ++ rest) (.str t) rest := by
  rw [textLiteral_append]
  exact .str (readsText_literal rest apart)

theorem setMember_of_notMem {name : CodeText} {v : Json} {before : List (CodeText × Json)}
    (other : name ∉ before.map (·.1)) : setMember name v before = before ++ [(name, v)] := by
  induction before with
  | nil => rfl
  | cons m before ih =>
    rw [List.map_cons, List.mem_cons, not_or] at other
    rw [setMember, if_neg (Ne.symm other.1), ih other.2]
    rfl

theorem Plain.indented_head {room : Nat} {v : Json} (plain : Plain room v) (level : Nat) :
    ∃ c more, indented level v = c :: more ∧ isSpace c = false ∧ c ≠ ']' := by
  cases plain with
  | null => exact ⟨_, _, rfl, rfl, by decide⟩
  | bool b => cases b <;> exact ⟨_, _, rfl, rfl, by decide⟩
  | str apart => exact ⟨_, _, rfl, rfl, by decide⟩
  | @array _ items inner => cases items <;> exact ⟨_, _, rfl, rfl, by decide⟩
  | @object _ members names apart inner => cases members <;> exact ⟨_, _, rfl, rfl, by decide⟩

section

variable {room level : Nat} {rest : List Char}

theorem readsItems_indented (level : Nat) (rest : List Char) {v : Json} {vs : List Json}
    (inner : ∀ w ∈ v :: vs, Plain room w)
    (reads : ∀ w ∈ v :: vs, ∀ rest, Reads room (indented (level + 1) w ++ rest) w rest) :
    ReadsItems room (indented (level + 1) v ++ (indentedItems (level + 1) vs ++ (newLine level ++ ']' :: rest)))
      (v :: vs) rest := by
  induction vs generalizing v with
  | nil =>
    rw [indentedItems, List.nil_append]
    exact .last (reads v (List.mem_cons_self ..) _) (dropWhile_newLine level _)
  | cons w vs ih =>
    rw [List.forall_mem_cons] at inner reads
    obtain ⟨c, more, text, blank, _⟩ := (inner.2 w (List.mem_cons_self ..)).indented_head (level + 1)
    -- Only the blanks of the new line are skipped, as no value begins with one.
    have next : (newLine (level + 1) ++ (indented (level + 1) w ++
        (indentedItems (level + 1) vs ++ (newLine level ++ ']' :: rest)))).dropWhile isSpace =
        indented (level + 1) w ++ (indentedItems (level + 1) vs ++ (newLine level ++ ']' :: rest)) := by
      rw [dropWhile_newLine, text, List.cons_append, List.dropWhile_cons_of_neg (by simp [blank])]
    rw [indentedItems]
    simp only [List.cons_append, List.append_assoc]
    refine .cons (reads.1 _) (List.dropWhile_cons_of_neg (by decide)) ?_
    rw [next]
    exact ih inner.2 reads.2

theorem readsMember_indented {v : Json} {name : CodeText} (apart : name.Apart) (plain : Plain room v)
    (reads : Reads room (indented level v ++ rest) v rest) :
    ReadsMember room (textLiteral name ++ ':' :: ' ' :: (indented level v ++ rest)) name v rest := by
  obtain ⟨c, more, text, blank, _⟩ := plain.indented_head level
  have start : (' ' :: (indented level v ++ rest)).dropWhile isSpace = indented level v ++ rest := by
    rw [List.dropWhile_cons_of_pos (by decide), text, List.cons_append,
      List.dropWhile_cons_of_neg (by simp [blank])]
  rw [textLiteral_append]
  exact .intro (readsText_literal _ apart) (List.dropWhile_cons_of_neg (by decide)) (by rwa [start])

theorem notMem_of_nodup {before ms : List (CodeText × Json)} {name : CodeText} {v : Json}
    (names : ((before ++ (name, v) :: ms).map (·.1)).Nodup) : name ∉ before.map (·.1) := by
  rw [List.map_append] at names
  exact fun member => (List.nodup_append.mp names).2.2 name member name (List.mem_cons_self ..) rfl

theorem readsMembers_indented (level : Nat) (rest : List Char) (before : List (CodeText × Json))
    {ms : List (CodeText × Json)} {name : CodeText} {v : Json}
    (names : ((before ++ (name, v) :: ms).map (·.1)).Nodup) (apart : ∀ m ∈ (name, v) :: ms, m.1.Apart)
    (inner : ∀ m ∈ (name, v) :: ms, Plain room m.2)
    (reads : ∀ m ∈ (name, v) :: ms, ∀ rest, Reads room (indented (level + 1) m.2 ++ rest) m.2 rest) :
    ReadsMembers room (textLiteral name ++ ':' :: ' ' :: (indented (level + 1) v ++
      (indentedMembers (level + 1) ms ++ (newLine level ++ '\x7d' :: rest)))) before
      (before ++ (name, v) :: ms) rest := by
  induction ms generalizing before name v with
  | nil =>
    have other := notMem_of_nodup names
    have member := readsMember_indented (apart _ (List.mem_cons_self ..)) (inner _ (List.mem_cons_self ..))
      (reads _ (List.mem_cons_self ..) (newLine level ++ '\x7d' :: rest))
    have last := ReadsMembers.last before member (dropWhile_newLine level ('\x7d' :: rest))
    rw [setMember_of_notMem other] at last
    exact last
  | cons m ms ih =>
    obtain ⟨name', w⟩ := m
    have other := notMem_of_nodup names
    rw [List.forall_mem_cons] at apart inner reads
    have names : ((before ++ [(name, v)] ++ (name', w) :: ms).map (·.1)).Nodup := by
      rwa [List.append_assoc]
    have next := ih _ names apart.2 inner.2 reads.2
    rw [indentedMembers]
    simp only [List.cons_append, List.append_assoc] at next ⊢
    refine .cons (readsMember_indented apart.1 inner.1 (reads.1 _)) (List.dropWhile_cons_of_neg (by decide)) ?_
    rw [dropWhile_newLine, textLiteral_append, List.dropWhile_cons_of_neg (by decide), ← textLiteral_append,
      setMember_of_notMem other]
    exact next

theorem Plain.reads {v : Json} (plain : Plain room v) (level : Nat) (rest : List Char) :
    Reads room (indented level v ++ rest) v rest := by
  induction plain generalizing level rest with
  | null => exact .null _ rest
  | bool b => exact .bool _ b rest
  | str apart => exact .literal _ apart rest
  | @array _ items inner ih =>
    cases items with
    | nil => exact .noItems rfl
    | cons v vs =>
      obtain ⟨c, more, text, blank, other⟩ := (inner v (List.mem_cons_self ..)).indented_head (level + 1)
      have read := readsItems_indented level rest inner fun w member => ih w member (level + 1)
      rw [indented]
      simp only [List.cons_append, List.append_assoc, List.nil_append, text] at read ⊢
      refine .array ?_ other read
      rw [dropWhile_newLine, List.dropWhile_cons_of_neg (by simp [blank])]
  | @object _ members names apart inner ih =>
    cases members with
    | nil => exact .noMembers rfl
    | cons m ms =>
      obtain ⟨name, v⟩ := m
      have read := readsMembers_indented level rest [] names apart inner
        fun m member => ih m member (level + 1)
      rw [indented]
      simp only [List.cons_append, List.append_assoc, List.nil_append, textLiteral_append] at read ⊢
      refine .object ?_ read
      rw [dropWhile_newLine, List.dropWhile_cons_of_neg (by decide)]

end

def IsPrinted (c : Char) : Prop :=
  c = '\n' ∨ 0x20 ≤ c.toNat ∧ c.toNat < 0x7F

instance : DecidablePred IsPrinted := fun _ => inferInstanceAs (Decidable (_ ∨ _))

def Printed (text : List Char) : Prop :=
  ∀ c ∈ text, IsPrinted c

theorem printed_of_all {text : List Char} (all : text.all (fun c => decide (IsPrinted c)) = true) : Printed text := by
  simpa [Printed] using all

theorem printed_nil : Printed [] :=
  fun _ member => nomatch member

theorem printed_append {left right : List Char} : Printed (left ++ right) ↔ Printed left ∧ Printed right :=
  List.forall_mem_append

theorem printed_cons {c : Char} {text : List Char} : Printed (c :: text) ↔ IsPrinted c ∧ Printed text :=
  List.forall_mem_cons

theorem printed_hexDigits (width value : Nat) : Printed (Text.hexDigits width value) := by
  have digit : ∀ n < 16, IsPrinted (Text.hexDigit n) := by decide
  induction width generalizing value with
  | zero => exact printed_nil
  | succ width ih =>
    exact printed_append.mpr ⟨ih _, printed_cons.mpr ⟨digit _ (Nat.mod_lt _ (by decide)), printed_nil⟩⟩

theorem printed_unitEscape (unit : Nat) : Printed (unitEscape unit) := by
  simp only [unitEscape, printed_cons, printed_hexDigits, and_true]
  decide

theorem printed_escaped {c : Char} (printed : IsPrinted c) : Printed ['\\', c] :=
  printed_cons.mpr ⟨by decide, printed_cons.mpr ⟨printed, printed_nil⟩⟩

theorem printed_escapeChar (c : Char) : Printed (escapeChar c) := by
  unfold escapeChar
  split_ifs with mark same same same same same plain small
  · rcases mark with rfl | rfl <;> exact printed_escaped (by decide)
  · exact printed_escaped (by decide)
  · exact printed_escaped (by decide)
  · exact printed_escaped (by decide)
  · exact printed_escaped (by decide)
  · exact printed_escaped (by decide)
  · exact printed_cons.mpr ⟨.inr plain, printed_nil⟩
  · exact printed_unitEscape _
  · exact printed_append.mpr ⟨printed_unitEscape _, printed_unitEscape _⟩

theorem printed_textLiteral (t : CodeText) : Printed (textLiteral t) := by
  have inside : Printed (t.flatMap escapePoint) := by
    intro c member
    obtain ⟨p, _, member⟩ := List.mem_flatMap.mp member
    cases p with
    | char d => exact printed_escapeChar d c member
    | half offset => exact printed_unitEscape _ c member
  simp only [textLiteral, List.cons_append, printed_cons, printed_append, printed_nil, inside]
  decide

theorem printed_newLine (level : Nat) : Printed (newLine level) := by
  refine printed_cons.mpr ⟨by decide, fun c member => ?_⟩
  rw [List.eq_of_mem_replicate member]
  decide

theorem printed_indentedItems {items : List Json} (level : Nat)
    (inner : ∀ v ∈ items, Printed (indented level v)) : Printed (indentedItems level items) := by
  induction items with
  | nil => exact printed_nil
  | cons v vs ih =>
    rw [List.forall_mem_cons] at inner
    simp only [indentedItems, printed_append, printed_cons, printed_newLine, inner.1, ih inner.2, and_true]
    decide

theorem printed_indentedMembers {members : List (CodeText × Json)} (level : Nat)
    (inner : ∀ m ∈ members, Printed (indented level m.2)) : Printed (indentedMembers level members) := by
  induction members with
  | nil => exact printed_nil
  | cons m ms ih =>
    rw [List.forall_mem_cons] at inner
    simp only [indentedMembers, List.cons_append, List.append_assoc, printed_append, printed_cons, printed_newLine,
      printed_textLiteral, inner.1, ih inner.2, and_true]
    decide

theorem Plain.printed {room : Nat} {v : Json} (plain : Plain room v) (level : Nat) : Printed (indented level v) := by
  induction plain generalizing level with
  | null => exact printed_of_all rfl
  | bool b => cases b <;> exact printed_of_all rfl
  | @str _ t apart => exact printed_textLiteral t
  | @array _ items inner ih =>
    cases items with
    | nil => exact printed_of_all rfl
    | cons v vs =>
      rw [List.forall_mem_cons] at ih
      have others := printed_indentedItems (level + 1) fun w member => ih.2 w member (level + 1)
      simp only [indented, List.cons_append, List.append_assoc, printed_append, printed_cons, printed_nil,
        printed_newLine, ih.1 (level + 1), others, and_true]
      decide
  | @object _ members names apart inner ih =>
    cases members with
    | nil => exact printed_of_all rfl
    | cons m ms =>
      rw [List.forall_mem_cons] at ih
      have others := printed_indentedMembers (level + 1) fun m member => ih.2 m member (level + 1)
      simp only [indented, List.cons_append, List.append_assoc, printed_append, printed_cons, printed_nil,
        printed_newLine, printed_textLiteral, ih.1 (level + 1), others, and_true]
      decide

theorem parse_of_reads {room : Nat} {c : Char} {more : List Char} {v : Json} (blank : isSpace c = false)
    (mark : c ≠ '\uFEFF') (reads : Reads room (c :: more) v []) : parse room (c :: more) = .ok v := by
  have start : (skipSpace (c :: more)).1 = c :: more := by
    rw [skipSpace_eq, List.dropWhile_cons_of_neg (by simp [blank])]
  rw [← start] at reads
  obtain ⟨_, read⟩ := reads
  unfold parse
  rw [if_neg (by simpa using mark), read]
  rfl

theorem parse_indented {room : Nat} {v : Json} (plain : Plain room v) : parse room (indented 0 v) = .ok v := by
  obtain ⟨c, more, text, blank, _⟩ := plain.indented_head 0
  have printed : IsPrinted c := plain.printed 0 c (text ▸ List.mem_cons_self ..)
  have mark : c ≠ '\uFEFF' := by
    rintro rfl
    revert printed
    decide
  have reads := plain.reads 0 []
  rw [List.append_nil, text] at reads
  rw [text]
  exact parse_of_reads blank mark reads

section

variable {code used : Nat} {p : CodePoint} {text : List Char}

theorem surrogate_of_ofUnit :
    ((CodePoint.ofUnit code).isHigh = true → isHighSurrogate code = true) ∧
      ((CodePoint.ofUnit code).isLow = true → isLowSurrogate code = true) := by
  unfold CodePoint.ofUnit
  split
  · simp only [CodePoint.isHigh, CodePoint.isLow, isHighSurrogate, isLowSurrogate, Bool.and_eq_true, decide_eq_true_eq]
    omega
  · constructor
    · intro high
      cases high
    · intro low
      cases low

theorem noLow_of_codePoint (one : codePoint code text = .ok (p, used)) (high : p.isHigh = true) :
    used = 0 ∧ NoLow text := by
  unfold codePoint at one
  split at one
  · split at one
    · split at one
      · cases one
      · rename_i unit value
        split at one
        · cases one
          cases high
        · rename_i other
          cases one
          refine ⟨rfl, fun _ _ _ _ _ _ same => ?_⟩
          simp only [List.cons.injEq, true_and] at same
          obtain ⟨rfl, rfl, rfl, rfl, _⟩ := same
          exact ⟨unit, value, Bool.eq_false_iff.mpr other⟩
    · rename_i other
      cases one
      exact absurd (surrogate_of_ofUnit.1 high) other
  · rename_i short
    cases one
    exact ⟨rfl, fun _ _ _ _ _ _ same => absurd same (short _ _ _ _ _ _)⟩

theorem isLowSurrogate_of_codePoint (one : codePoint code text = .ok (p, used)) (low : p.isLow = true) :
    isLowSurrogate code = true := by
  unfold codePoint at one
  repeat' split at one
  all_goals cases one
  · cases low
  all_goals exact surrogate_of_ofUnit.2 low

end

theorem consRead_eq_ok {text more : List Char} {p : CodePoint} {short : more.length ≤ text.length}
    {read : Except Failure (CodeText × Suffix more)} {s : CodeText} {rest : Suffix text}
    (done : consRead p short read = .ok (s, rest)) : ∃ s' rest', read = .ok (s', rest') ∧ s = p :: s' := by
  cases read with
  | error e => cases done
  | ok r =>
    cases done
    exact ⟨_, _, rfl, rfl⟩

theorem apart_cons_char (c : Char) {text : List Char} {s : CodeText} (apart : s.Apart) :
    CodeText.Apart (.char c :: s) ∧ (NoLow text → ∀ p ∈ (CodePoint.char c :: s).head?, p.isLow = false) := by
  refine ⟨CodeText.apart_cons.mpr ⟨nofun, apart⟩, fun _ => ?_⟩
  rintro _ ⟨⟩
  rfl

/-- In a text that is read, a high half is followed by no low one. -/
theorem apart_of_readText {opening : Nat} {text : List Char} {s : CodeText} {rest : Suffix text}
    (read : readText opening text = .ok (s, rest)) :
    s.Apart ∧ (NoLow text → ∀ p ∈ s.head?, p.isLow = false) := by
  fun_induction readText opening text generalizing s with
  | case1 | case3 | case4 | case5 | case7 | case8 | case10 => cases read
  | case2 rest =>
    cases read
    exact ⟨CodeText.apart_nil, fun _ => nofun⟩
  | case6 a b c d e more code value point used one ih =>
    obtain ⟨s, left, inner, rfl⟩ := consRead_eq_ok read
    obtain ⟨apart, next⟩ := ih inner
    refine ⟨CodeText.apart_cons.mpr ⟨fun high => ?_, apart⟩, fun noLow => ?_⟩
    · obtain ⟨rfl, noLow⟩ := noLow_of_codePoint one high
      exact next noLow
    · obtain ⟨other, value', notLow⟩ := noLow a b c d e more rfl
      cases value.symm.trans value'
      rintro _ ⟨⟩
      exact Bool.eq_false_iff.mpr fun low => absurd (isLowSurrogate_of_codePoint one low) (notLow ▸ Bool.false_ne_true)
  | case9 c rest _ _ plain _ ih =>
    obtain ⟨s, left, inner, rfl⟩ := consRead_eq_ok read
    exact apart_cons_char plain (ih inner).1
  | case11 c rest _ _ _ _ _ _ ih =>
    obtain ⟨s, left, inner, rfl⟩ := consRead_eq_ok read
    exact apart_cons_char c (ih inner).1

/-- Values in which the members of each object have different names, and no text has a half of a pair before
    its other half. -/
inductive Sound : Json → Prop
  | null : Sound .null
  | bool (b : Bool) : Sound (.bool b)
  | int (n : Int) : Sound (.int n)
  | float (x : Binary64) : Sound (.float x)
  | str {t : CodeText} (apart : t.Apart) : Sound (.str t)
  | array {items : List Json} (inner : ∀ v ∈ items, Sound v) : Sound (.array items)
  | object {members : List (CodeText × Json)} (names : (members.map (·.1)).Nodup)
      (apart : ∀ m ∈ members, m.1.Apart) (inner : ∀ m ∈ members, Sound m.2) : Sound (.object members)

theorem sound_of_number {n : NumberText} {v : Json} (read : n.value = .ok v) : Sound v := by
  unfold NumberText.value at read
  split at read
  · split at read
    · cases read
    · cases read
      exact .int _
  · cases read
    exact .float _

theorem sound_of_scalar {text : List Char} {v : Json} {rest : Rest text} (read : scalar text = .ok (v, rest)) :
    Sound v := by
  unfold scalar at read
  split at read
  · rename_i word v found
    split at read
    · cases read
      have word := List.mem_of_find?_eq_some found
      simp only [wordValues, List.mem_cons, Prod.mk.injEq, List.not_mem_nil, or_false] at word
      -- The three kinds of words, and the three numbers that are written as words.
      rcases word with ⟨-, rfl⟩ | ⟨-, rfl⟩ | ⟨-, rfl⟩ | ⟨-, rfl⟩ | ⟨-, rfl⟩ | ⟨-, rfl⟩
      · exact .null
      · exact .bool _
      · exact .bool _
      · exact .float _
      · exact .float _
      · exact .float _
    · cases read
  · split at read
    · cases read
    · rename_i n _
      split at read
      · cases number : n.value with
        | error e =>
          rw [number] at read
          cases read
        | ok w =>
          rw [number] at read
          cases read
          exact sound_of_number number
      · cases read

theorem mem_setMember {name : CodeText} {v : Json} {before : List (CodeText × Json)} {m : CodeText × Json}
    (member : m ∈ setMember name v before) : m = (name, v) ∨ m ∈ before := by
  induction before with
  | nil => exact .inl (List.mem_singleton.mp member)
  | cons first before ih =>
    unfold setMember at member
    split at member
    · rename_i same
      rcases List.mem_cons.mp member with rfl | member
      · exact .inl (same ▸ rfl)
      · exact .inr (List.mem_cons_of_mem _ member)
    · rcases List.mem_cons.mp member with rfl | member
      · exact .inr (List.mem_cons_self ..)
      · exact (ih member).imp_right (List.mem_cons_of_mem _)

theorem nodup_setMember {name : CodeText} {v : Json} {before : List (CodeText × Json)}
    (names : (before.map (·.1)).Nodup) : ((setMember name v before).map (·.1)).Nodup := by
  induction before with
  | nil => simp [setMember]
  | cons first before ih =>
    rw [List.map_cons, List.nodup_cons] at names
    unfold setMember
    split
    · exact List.nodup_cons.mpr names
    · rename_i other
      refine List.nodup_cons.mpr ⟨fun member => ?_, ih names.2⟩
      obtain ⟨m, member, same⟩ := List.mem_map.mp member
      rcases mem_setMember member with rfl | member
      · exact other same.symm
      · exact names.1 (List.mem_map.mpr ⟨m, member, same⟩)

theorem Sound.setMember {name : CodeText} {v : Json} {before : List (CodeText × Json)}
    (others : Sound (.object before)) (named : name.Apart) (value : Sound v) :
    Sound (.object (Json.setMember name v before)) := by
  cases others with
  | object names apart inner =>
    refine .object (nodup_setMember names) (fun m member => ?_) fun m member => ?_
    · rcases mem_setMember member with rfl | member
      · exact named
      · exact apart m member
    · rcases mem_setMember member with rfl | member
      · exact value
      · exact inner m member

theorem Sound.empty : Sound (.object []) :=
  .object List.nodup_nil nofun nofun

-- The recursion is that of the reader.
mutual

theorem sound_of_value {room : Nat} {text : List Char} {v : Json} {rest : Rest text}
    (read : value room text = .ok (v, rest)) : Sound v := by
  unfold value at read
  split at read
  · split at read
    · cases read
    · rename_i inside
      cases read
      exact .str (apart_of_readText inside).1
  · split at read
    · cases read
    · split at read
      split at read
      · cases read
        exact .array nofun
      · split at read
        · cases read
        · rename_i inside
          cases read
          exact .array (sound_of_items inside)
  · split at read
    · cases read
    · split at read
      split at read
      · cases read
        exact .empty
      · split at read
        · cases read
        · rename_i inside
          cases read
          exact sound_of_members .empty inside
  · exact sound_of_scalar read
termination_by 2 * text.length
decreasing_by
  all_goals subst_vars
  all_goals rw [List.length_cons]
  all_goals omega

theorem sound_of_items {room : Nat} {text : List Char} {vs : List Json} {rest : Rest text}
    (read : items room text = .ok (vs, rest)) : ∀ v ∈ vs, Sound v := by
  unfold items at read
  split at read
  · cases read
  · rename_i v rest short inside
    have first := sound_of_value inside
    split at read
    split at read
    · cases read
      exact List.forall_mem_singleton.mpr first
    · split at read
      · split at read
        rename_i after _ _ _ _ _ next within _
        have shorter : next.length ≤ after.length - 1 := List.length_tail ▸ within
        split at read
        · cases read
        · rename_i others
          cases read
          exact List.forall_mem_cons.mpr ⟨first, sound_of_items others⟩
      · cases read
termination_by 2 * text.length + 1
decreasing_by
  · omega
  · omega

theorem sound_of_members {room : Nat} {text : List Char} {before ms : List (CodeText × Json)} {rest : Rest text}
    (others : Sound (.object before)) (read : members room text before = .ok (ms, rest)) :
    Sound (.object ms) := by
  unfold members at read
  split at read
  · split at read
    · cases read
    · rename_i name rest inText named
      split at read
      rename_i colon inRest _
      split at read
      · split at read
        rename_i start inColon _
        have ofTail : text.tail.length = text.length - 1 := List.length_tail
        have ofColon : start.length ≤ colon.length - 1 := List.length_tail ▸ inColon
        split at read
        · cases read
        · rename_i v more inStart inside
          have next := others.setMember (apart_of_readText named).1 (sound_of_value inside)
          have inMore := (skipSpace more).2
          have ofMore : (skipSpace more).1.tail.length = (skipSpace more).1.length - 1 := List.length_tail
          have inAfter := (skipSpace (skipSpace more).1.tail).2
          dsimp only at read
          split at read
          · cases read
            exact next
          · split at read
            · split at read
              · cases read
              · rename_i further
                cases read
                exact sound_of_members next further
            · cases read
      · cases read
  · cases read
termination_by 2 * text.length + 1
decreasing_by
  · omega
  · omega

end

theorem sound_of_parse {room : Nat} {text : List Char} {v : Json} (read : parse room text = .ok v) : Sound v := by
  unfold parse at read
  split at read
  · cases read
  · split at read
    · cases read
    · rename_i inside
      split at read
      · cases read
        exact sound_of_value inside
      · cases read

theorem skipSpace_bracket (text : List Char) : skipSpace ('[' :: text) = ⟨'[' :: text, Nat.le_refl _⟩ :=
  rfl

theorem value_brackets (room more : Nat) (rest : List Char) :
    value room ('[' :: (List.replicate (room + more) '[' ++ rest)) = .error .tooDeep := by
  induction room with
  | zero => rw [value]
  | succ room ih =>
    rw [Nat.add_right_comm, List.replicate_succ, List.cons_append, value, skipSpace_bracket]
    dsimp only
    rw [if_neg (by simp), items, ih]

theorem parse_brackets {room count : Nat} (deep : room < count) (rest : List Char) :
    parse room (List.replicate count '[' ++ rest) = .error .tooDeep := by
  obtain ⟨more, rfl⟩ := Nat.exists_eq_add_of_lt deep
  have read : value room (skipSpace ('[' :: (List.replicate (room + more) '[' ++ rest))).1 = .error .tooDeep :=
    value_brackets room more rest
  rw [List.replicate_succ, List.cons_append, parse, if_neg (by simp), read]
  rfl

end Json

end Gesture
