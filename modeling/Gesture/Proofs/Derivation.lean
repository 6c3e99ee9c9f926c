import Gesture.Pattern.Grammar

namespace Gesture

theorem bind_eq_ok {ε α β : Type} {x : Except ε α} {f : α → Except ε β} {b : β}
    (ok : x >>= f = .ok b) : ∃ a, x = .ok a ∧ f a = .ok b := by
  cases x with
  | error e => cases ok
  | ok a => exact ⟨a, rfl, ok⟩

theorem bind_eq_error {ε α β : Type} {x : Except ε α} {f : α → Except ε β} {e : ε} :
    x >>= f = .error e ↔ x = .error e ∨ ∃ a, x = .ok a ∧ f a = .error e := by
  cases x <;> simp [bind, Except.bind]

theorem map_eq_ok {ε α β : Type} {x : Except ε α} {f : α → β} {b : β} (ok : x.map f = .ok b) :
    ∃ a, x = .ok a ∧ f a = b := by
  cases x with
  | error e => cases ok
  | ok a => exact ⟨a, rfl, Except.ok.inj ok⟩

theorem map_eq_error {ε α β : Type} {x : Except ε α} {f : α → β} {e : ε} :
    x.map f = .error e ↔ x = .error e := by
  cases x <;> simp [Except.map]

namespace Grammar

/-- Whether a text ends the name before it, and the name stands for a click: the text does not make the
    name longer, does not tell an edge and does not open a group. -/
structure EndsClick (rest : List Char) : Prop where
  name : ∀ c ∈ rest.head?, isNameChar c = false
  group : rest.head? ≠ some '('
  edge : ∀ e : Edge, ¬('-' :: e.word.toList <+: rest)

/-- The texts of the grammar, and the tokens that each of them stands for. -/
inductive Derives : List Char → List Token → Prop where
  | nil : Derives [] []
  | blank {c : Char} {rest : List Char} {tokens : List Token} (blank : Text.isBlank c = true)
      (next : Derives rest tokens) : Derives (c :: rest) tokens
  | event (b : Button) (e : Edge) {rest : List Char} {tokens : List Token} (next : Derives rest tokens)
      (noGroup : rest.head? ≠ some '(') :
      Derives (b.shortName.toList ++ '-' :: (e.word.toList ++ rest)) (b.token e :: tokens)
  | click (b : Button) {rest : List Char} {tokens : List Token} (next : Derives rest tokens)
      (ends : EndsClick rest) :
      Derives (b.shortName.toList ++ rest) (b.token .press :: b.token .release :: tokens)
  | group (b : Button) {inner rest : List Char} {held tokens : List Token} (within : Derives inner held)
      (next : Derives rest tokens) :
      Derives (b.shortName.toList ++ '(' :: (inner ++ ')' :: rest))
        (b.token .press :: (held ++ b.token .release :: tokens))

theorem isNameChar_plain {c : Char} (name : isNameChar c = true) :
    Text.isBlank c = false ∧ c ≠ '(' ∧ c ≠ ')' ∧ c ≠ '-' := by
  have range : (97 ≤ c.toNat ∧ c.toNat ≤ 122) ∨ (48 ≤ c.toNat ∧ c.toNat ≤ 57) := by
    simpa [isNameChar, Char.le_def, UInt32.le_iff_toNat_le] using name
  refine ⟨?_, ?_, ?_, ?_⟩
  · simp [Text.isBlank, Text.isBlankCode]
    omega
  all_goals
    rintro rfl
    revert range
    decide

theorem isNameChar_shortName (b : Button) : ∀ c ∈ b.shortName.toList, isNameChar c = true :=
  List.all_eq_true.mp (by cases b <;> rfl)

theorem shortName_ne_nil (b : Button) : b.shortName.toList ≠ [] := by
  cases b <;> decide

theorem explicitEdge?_eq_some {text rest : List Char} {e : Edge} :
    explicitEdge? text = some (e, rest) ↔ text = '-' :: (e.word.toList ++ rest) := by
  constructor
  · intro told
    simp only [explicitEdge?] at told
    split at told
    · rename_i starts
      obtain ⟨after, rfl⟩ := List.isPrefixOf_iff_prefix.mp starts
      cases told
      rw [List.drop_left]
      rfl
    · split at told
      · rename_i starts
        obtain ⟨after, rfl⟩ := List.isPrefixOf_iff_prefix.mp starts
        cases told
        rw [List.drop_left]
        rfl
      · cases told
  · rintro rfl
    cases e <;> rfl

theorem explicitEdge?_eq_none {text : List Char} :
    explicitEdge? text = none ↔ ∀ e : Edge, ¬('-' :: e.word.toList <+: text) := by
  rw [Option.eq_none_iff_forall_ne_some]
  constructor
  · rintro none e ⟨rest, starts⟩
    exact none (e, rest) (explicitEdge?_eq_some.mpr starts.symm)
  · rintro none ⟨e, rest⟩ told
    exact none e ⟨rest, (explicitEdge?_eq_some.mp told).symm⟩

theorem name_parts {b : Button} {c : Char} {tail rest : List Char}
    (same : c :: tail = b.shortName.toList ++ rest) (ends : ∀ d ∈ rest.head?, isNameChar d = false) :
    isNameChar c = true ∧ c :: tail.takeWhile isNameChar = b.shortName.toList ∧
      tail.dropWhile isNameChar = rest := by
  obtain ⟨first, more, named⟩ := List.exists_cons_of_ne_nil (shortName_ne_nil b)
  have all := isNameChar_shortName b
  rw [named] at same all ⊢
  rw [List.cons_append, List.cons.injEq] at same
  obtain ⟨rfl, same⟩ := same
  obtain ⟨start, later⟩ := List.forall_mem_cons.mp all
  have stop : rest.takeWhile isNameChar = [] ∧ rest.dropWhile isNameChar = rest := by
    cases rest with
    | nil => exact ⟨rfl, rfl⟩
    | cons d rest =>
      have other : ¬isNameChar d = true := by simp [ends d rfl]
      exact ⟨List.takeWhile_cons_of_neg other, List.dropWhile_cons_of_neg other⟩
  refine ⟨start, ?_, ?_⟩
  · rw [same, List.takeWhile_append_of_pos later, stop.1, List.append_nil]
  · rw [same, List.dropWhile_append_of_pos later, stop.2]

def prepend (more : List Char) (found : Option (List Char × List Char)) :
    Option (List Char × List Char) :=
  found.map fun p => (more ++ p.1, p.2)

theorem prepend_nil (found : Option (List Char × List Char)) : prepend [] found = found := by
  cases found <;> rfl

theorem prepend_prepend (left right : List Char) (found : Option (List Char × List Char)) :
    prepend left (prepend right found) = prepend (left ++ right) found := by
  cases found with
  | none => rfl
  | some p => simp only [prepend, Option.map_some, List.append_assoc]

theorem splitClose_open (depth : Nat) (text : List Char) :
    splitClose depth ('(' :: text) = prepend ['('] (splitClose (depth + 1) text) := by
  rw [splitClose.eq_def]
  rfl

theorem splitClose_close (depth : Nat) (text : List Char) :
    splitClose (depth + 1) (')' :: text) = prepend [')'] (splitClose depth text) := by
  rfl

theorem splitClose_other (depth : Nat) {c : Char} (opens : c ≠ '(') (closes : c ≠ ')') (text : List Char) :
    splitClose depth (c :: text) = prepend [c] (splitClose depth text) := by
  rw [splitClose.eq_def]
  dsimp only
  rw [if_neg closes, if_neg opens]
  rfl

theorem splitClose_plain (depth : Nat) {text : List Char} (plain : ∀ c ∈ text, c ≠ '(' ∧ c ≠ ')')
    (rest : List Char) : splitClose depth (text ++ rest) = prepend text (splitClose depth rest) := by
  induction text with
  | nil => exact (prepend_nil _).symm
  | cons c text ih =>
    obtain ⟨⟨opens, closes⟩, later⟩ := List.forall_mem_cons.mp plain
    rw [List.cons_append, splitClose_other depth opens closes, ih later, prepend_prepend]
    rfl

theorem splitClose_shortName (depth : Nat) (b : Button) (rest : List Char) :
    splitClose depth (b.shortName.toList ++ rest) = prepend b.shortName.toList (splitClose depth rest) := by
  apply splitClose_plain
  intro c member
  obtain ⟨_, opens, closes, _⟩ := isNameChar_plain (isNameChar_shortName b c member)
  exact ⟨opens, closes⟩

theorem splitClose_edge (depth : Nat) (e : Edge) (rest : List Char) :
    splitClose depth ('-' :: (e.word.toList ++ rest)) =
      prepend ('-' :: e.word.toList) (splitClose depth rest) := by
  have plain : ∀ c ∈ '-' :: e.word.toList, c ≠ '(' ∧ c ≠ ')' := by cases e <;> simp [Edge.word]
  exact splitClose_plain depth plain rest

theorem Derives.splitClose {text : List Char} {tokens : List Token} (derives : Derives text tokens)
    (depth : Nat) (rest : List Char) :
    splitClose depth (text ++ rest) = prepend text (splitClose depth rest) := by
  induction derives generalizing depth rest with
  | nil => exact (prepend_nil _).symm
  | @blank c text tokens blank _ ih =>
    have other : c ≠ '(' ∧ c ≠ ')' := by
      constructor
      all_goals
        rintro rfl
        revert blank
        decide
    rw [List.cons_append, splitClose_other depth other.1 other.2, ih, prepend_prepend]
    rfl
  | @event b e text tokens _ _ ih =>
    simp only [List.append_assoc, List.cons_append]
    rw [splitClose_shortName, splitClose_edge, ih, prepend_prepend, prepend_prepend]
    simp only [List.append_assoc, List.cons_append]
  | @click b text tokens _ _ ih =>
    rw [List.append_assoc, splitClose_shortName, ih, prepend_prepend]
  | @group b inner text held tokens _ _ within next =>
    simp only [List.append_assoc, List.cons_append]
    rw [splitClose_shortName, splitClose_open, within, splitClose_close, next]
    simp only [prepend_prepend, List.cons_append, List.nil_append]

theorem Derives.splitClose_end {text : List Char} {tokens : List Token} (derives : Derives text tokens)
    (rest : List Char) : Grammar.splitClose 0 (text ++ ')' :: rest) = some (text, rest) := by
  rw [derives.splitClose]
  simp [Grammar.splitClose, prepend]

theorem eq_of_splitClose {depth : Nat} {text inner rest : List Char}
    (found : Grammar.splitClose depth text = some (inner, rest)) : text = inner ++ ')' :: rest := by
  induction text generalizing depth inner with
  | nil => cases found
  | cons c text ih =>
    unfold Grammar.splitClose at found
    split at found
    · rename_i closes
      subst closes
      split at found
      · cases found
        rfl
      · obtain ⟨⟨before, after⟩, later, same⟩ := Option.map_eq_some_iff.mp found
        cases same
        rw [ih later]
        rfl
    · obtain ⟨⟨before, after⟩, later, same⟩ := Option.map_eq_some_iff.mp found
      cases same
      rw [ih later]
      rfl

def Term.Spells (text : List Char) : Term → Prop
  | .explicit token next => ∃ (b : Button) (e : Edge), token = b.token e ∧ next.head? ≠ some '(' ∧
      text = b.shortName.toList ++ '-' :: (e.word.toList ++ next)
  | .click name next => ∃ b : Button, name = b.shortName ∧ EndsClick next ∧ text = b.shortName.toList ++ next
  | .group name inner next => ∃ b : Button, name = b.shortName ∧
      text = b.shortName.toList ++ '(' :: (inner ++ ')' :: next)

theorem Term.Spells.ne_nil {text : List Char} {t : Term} (spells : t.Spells text) : text ≠ [] := by
  cases t with
  | explicit token next =>
    obtain ⟨b, e, _, _, rfl⟩ := spells
    exact List.append_ne_nil_of_left_ne_nil (shortName_ne_nil b) _
  | click name next =>
    obtain ⟨b, _, _, rfl⟩ := spells
    exact List.append_ne_nil_of_left_ne_nil (shortName_ne_nil b) _
  | group name inner next =>
    obtain ⟨b, _, rfl⟩ := spells
    exact List.append_ne_nil_of_left_ne_nil (shortName_ne_nil b) _

theorem spells_of_termAt {position : Nat} {c : Char} {rest : List Char} {t : Term}
    (found : termAt position c rest = .ok t) : t.Spells (c :: rest) := by
  simp only [termAt] at found
  split at found
  · cases found
  · rename_i known
    obtain ⟨b, named⟩ := Option.ne_none_iff_exists'.mp (mt Option.isNone_iff_eq_none.mpr known)
    have name := Button.shortName_of_ofShortName? named
    have text : c :: rest = b.shortName.toList ++ rest.dropWhile isNameChar := by
      rw [name, String.toList_ofList, List.cons_append, List.takeWhile_append_dropWhile]
    rw [← name] at found
    rw [text]
    -- After the name comes an edge, a group or neither, and each makes one kind of term.
    split at found
    · rename_i edge next told
      split at found
      · cases found
      · rename_i noGroup
        cases found
        exact ⟨b, edge, rfl, noGroup, by rw [explicitEdge?_eq_some.mp told]⟩
    · rename_i untold
      split at found
      · rename_i inside opens
        split at found
        · rename_i inner next closes
          cases found
          exact ⟨b, rfl, by rw [opens, eq_of_splitClose closes]⟩
        · cases found
      · rename_i noGroup
        cases found
        refine ⟨b, rfl, ⟨?_, ?_, explicitEdge?_eq_none.mp untold⟩, rfl⟩
        · intro d first
          have stop := List.head?_dropWhile_not isNameChar rest
          rw [first] at stop
          exact stop
        · intro opens
          obtain ⟨inside, same⟩ := List.head?_eq_some_iff.mp opens
          exact noGroup inside same

theorem derives_of_tokensFrom {position : Nat} {text : List Char} {tokens : List Token}
    (read : tokensFrom position text = .ok tokens) : Derives text tokens := by
  fun_induction tokensFrom position text generalizing tokens with
  | case1 position =>
    cases read
    exact .nil
  | case2 position c rest blank ih => exact .blank blank (ih read)
  | case3 => cases read
  | case4 => cases read
  | case5 => cases read
  | case6 position c rest _ _ _ token next found ih =>
    obtain ⟨left, later, read⟩ := bind_eq_ok read
    cases read
    obtain ⟨b, e, rfl, noGroup, text⟩ := spells_of_termAt found
    rw [text]
    exact .event b e (ih later) noGroup
  | case7 position c rest _ _ _ name next found ih =>
    obtain ⟨left, later, read⟩ := bind_eq_ok read
    cases read
    obtain ⟨b, rfl, ends, text⟩ := spells_of_termAt found
    rw [text]
    exact .click b (ih later) ends
  | case8 position c rest _ _ _ name inner next found within after =>
    obtain ⟨held, inside, read⟩ := bind_eq_ok read
    obtain ⟨left, later, read⟩ := bind_eq_ok read
    cases read
    obtain ⟨b, rfl, text⟩ := spells_of_termAt found
    rw [text]
    exact .group b (within inside) (after later)

theorem termAt_of_spells {c : Char} {rest : List Char} {t : Term} (spells : t.Spells (c :: rest))
    (closed : ∀ name inner next, t = .group name inner next →
      Grammar.splitClose 0 (inner ++ ')' :: next) = some (inner, next)) (position : Nat) :
    isNameChar c = true ∧ termAt position c rest = .ok t := by
  cases t with
  | explicit token next =>
    obtain ⟨b, e, rfl, noGroup, text⟩ := spells
    obtain ⟨start, name, after⟩ := name_parts text (by rintro d ⟨⟩; decide)
    have told := explicitEdge?_eq_some.mpr (rfl : '-' :: (e.word.toList ++ next) = _)
    refine ⟨start, ?_⟩
    simp only [termAt, name, after, String.ofList_toList, Button.ofShortName?_shortName, told, if_neg noGroup,
      Option.isNone_some, Bool.false_eq_true, if_false]
    rfl
  | click name next =>
    obtain ⟨b, rfl, ends, text⟩ := spells
    obtain ⟨start, name, after⟩ := name_parts text ends.name
    refine ⟨start, ?_⟩
    simp only [termAt, name, after, String.ofList_toList, Button.ofShortName?_shortName,
      explicitEdge?_eq_none.mpr ends.edge, Option.isNone_some, Bool.false_eq_true, if_false]
    split
    · exact absurd rfl ends.group
    · rfl
  | group name inner next =>
    obtain ⟨b, rfl, text⟩ := spells
    obtain ⟨start, name, after⟩ := name_parts text (by rintro d ⟨⟩; decide)
    have untold : explicitEdge? ('(' :: (inner ++ ')' :: next)) = none := by
      apply explicitEdge?_eq_none.mpr
      rintro e ⟨more, same⟩
      cases same
    refine ⟨start, ?_⟩
    simp only [termAt, name, after, String.ofList_toList, Button.ofShortName?_shortName, untold,
      closed _ _ _ rfl, Option.isNone_some, Bool.false_eq_true, if_false]

theorem exists_termAt {text : List Char} {t : Term} (spells : t.Spells text)
    (closed : ∀ name inner next, t = .group name inner next →
      Grammar.splitClose 0 (inner ++ ')' :: next) = some (inner, next)) (position : Nat) :
    ∃ c rest, text = c :: rest ∧ isNameChar c = true ∧ termAt position c rest = .ok t := by
  obtain ⟨c, rest, rfl⟩ := List.exists_cons_of_ne_nil spells.ne_nil
  exact ⟨c, rest, rfl, termAt_of_spells spells closed position⟩

theorem tokensFrom_term {c : Char} {rest : List Char} {position : Nat} {t : Term}
    (start : isNameChar c = true) (found : termAt position c rest = .ok t) :
    tokensFrom position (c :: rest) =
      match t with
      | .explicit token next => do
        let tokens ← tokensFrom (position + 1 + (rest.length - next.length)) next
        return token :: tokens
      | .click name next => do
        let tokens ← tokensFrom (position + 1 + (rest.length - next.length)) next
        return .press name :: .release name :: tokens
      | .group name inner next => do
        let held ← tokensFrom (position + (rest.length - next.length - inner.length)) inner
        let tokens ← tokensFrom (position + 1 + (rest.length - next.length)) next
        return .press name :: held ++ .release name :: tokens := by
  obtain ⟨blank, _, close, _⟩ := isNameChar_plain start
  rw [tokensFrom.eq_def]
  dsimp only
  rw [if_neg (by simp [blank]), if_neg close, if_neg (by simp [start])]
  split
  · rename_i other
    rw [found] at other
    cases other
  all_goals
    rename_i other
    rw [found] at other
    cases other
    rfl

theorem Derives.tokensFrom {text : List Char} {tokens : List Token} (derives : Derives text tokens)
    (position : Nat) : tokensFrom position text = .ok tokens := by
  induction derives generalizing position with
  | nil => rw [Grammar.tokensFrom.eq_def]
  | blank blank _ ih =>
    rw [Grammar.tokensFrom.eq_def]
    dsimp only
    rw [if_pos blank, ih]
  | @event b e rest tokens next noGroup ih =>
    obtain ⟨c, tail, text, start, found⟩ := exists_termAt (t := .explicit (b.token e) rest)
      ⟨b, e, rfl, noGroup, rfl⟩ nofun position
    rw [text, tokensFrom_term start found]
    dsimp only
    rw [ih]
    rfl
  | @click b rest tokens next ends ih =>
    obtain ⟨c, tail, text, start, found⟩ := exists_termAt (t := .click b.shortName rest)
      ⟨b, rfl, ends, rfl⟩ nofun position
    rw [text, tokensFrom_term start found]
    dsimp only
    rw [ih]
    rfl
  | @group b inner rest held tokens within next ihWithin ihNext =>
    -- All parentheses in the group are closed, so that the one found for it is its own.
    obtain ⟨c, tail, text, start, found⟩ := exists_termAt (t := .group b.shortName inner rest)
      ⟨b, rfl, rfl⟩ (by rintro _ _ _ ⟨⟩; exact within.splitClose_end rest) position
    rw [text, tokensFrom_term start found]
    dsimp only
    rw [ihWithin, ihNext]
    rfl

theorem tokensFrom_eq_ok_iff (position : Nat) {text : List Char} {tokens : List Token} :
    Grammar.tokensFrom position text = .ok tokens ↔ Derives text tokens :=
  ⟨derives_of_tokensFrom, (·.tokensFrom position)⟩

theorem Derives.unique {text : List Char} {left right : List Token} (derives : Derives text left)
    (derives' : Derives text right) : left = right :=
  Except.ok.inj ((derives.tokensFrom 0).symm.trans (derives'.tokensFrom 0))

theorem parse_eq_ok_iff {pattern : String} {tokens : List Token} :
    parse pattern = .ok tokens ↔ Derives (Text.lower pattern.toList) tokens := by
  rw [← tokensFrom_eq_ok_iff 0, parse]
  cases Grammar.tokensFrom 0 (Text.lower pattern.toList) with
  | error fault => exact ⟨nofun, nofun⟩
  | ok read =>
    constructor
    all_goals
      intro same
      cases same
      rfl

/-- A pattern is read as the tokens that its lower case derives, and these are the only ones that it
    derives. If it derives none, reading it gives an error about that text. -/
theorem parse_by_derivation (pattern : String) :
    let text := Text.lower pattern.toList
    (∀ tokens, parse pattern = .ok tokens ↔ Derives text tokens) ∧
      (∀ left right, Derives text left → Derives text right → left = right) ∧
      ((¬∃ tokens, Derives text tokens) ↔
        ∃ fault, parse pattern = .error ⟨fault, String.ofList text⟩) := by
  refine ⟨fun tokens => parse_eq_ok_iff, fun left right => Derives.unique, ?_⟩
  simp only [← parse_eq_ok_iff, parse]
  cases Grammar.tokensFrom 0 (Text.lower pattern.toList) with
  | error fault => exact ⟨fun _ => ⟨fault, rfl⟩, fun _ ⟨_, same⟩ => nomatch same⟩
  | ok read => exact ⟨fun none => absurd ⟨read, rfl⟩ none, fun ⟨_, same⟩ => nomatch same⟩

end Grammar

end Gesture
