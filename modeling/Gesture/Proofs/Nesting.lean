import Gesture.Proofs.ShortForm

namespace Gesture

/-- Tokens that nest: each press has its release, and what lies between the two nests. -/
inductive Nested : List Token → Prop where
  | nil : Nested []
  | pair (name : String) {inner rest : List Token} (within : Nested inner) (next : Nested rest) :
      Nested (.press name :: (inner ++ .release name :: rest))

/-- A press at one place closes at another: the release of the same button is there, and the tokens strictly
    between them nest. -/
structure Closes (tokens : List Token) (i j : Nat) : Prop where
  later : i < j
  ends : ∃ name, tokens[i]? = some (.press name) ∧ tokens[j]? = some (.release name)
  between : Nested ((tokens.take j).drop (i + 1))

theorem closes_iff {tokens : List Token} {i j : Nat} :
    Closes tokens i j ↔ ∃ before name inner after,
      tokens = before ++ .press name :: (inner ++ .release name :: after) ∧ Nested inner ∧
        i = before.length ∧ j = before.length + inner.length + 1 := by
  constructor
  · rintro ⟨later, ⟨name, press, release⟩, between⟩
    obtain ⟨_, press⟩ := List.getElem?_eq_some_iff.mp press
    obtain ⟨bound, release⟩ := List.getElem?_eq_some_iff.mp release
    have inner : (tokens.take j).drop (i + 1) ++ .release name :: tokens.drop (j + 1) =
        tokens.drop (i + 1) := by
      have rest : tokens.drop j = (tokens.drop (i + 1)).drop (j - (i + 1)) := by
        rw [List.drop_drop, Nat.add_sub_cancel' later]
      rw [← release, List.getElem_cons_drop, rest, List.drop_take, List.take_append_drop]
    refine ⟨tokens.take i, name, (tokens.take j).drop (i + 1), tokens.drop (j + 1), ?_, between, ?_, ?_⟩
    · rw [inner, ← press, List.getElem_cons_drop, List.take_append_drop]
    · rw [List.length_take]
      omega
    · rw [List.length_take, List.length_drop, List.length_take]
      omega
  · rintro ⟨before, name, inner, after, rfl, within, rfl, rfl⟩
    refine ⟨by omega, ⟨name, by simp, ?_⟩, ?_⟩
    · rw [Nat.add_assoc, List.getElem?_append_right (by omega)]
      simp
    · rw [Nat.add_assoc, List.take_length_add_append, List.drop_length_add_append]
      simpa using within

namespace Outline

theorem closing_press (name other : String) (held : List String) (rest : List Token) :
    closing name held (.press other :: rest) =
      (closing name (other :: held) rest).map fun p => (.press other :: p.1, p.2) :=
  rfl

theorem closing_release (name top : String) (below : List String) (rest : List Token) :
    closing name (top :: below) (.release top :: rest) =
      (closing name below rest).map fun p => (.release top :: p.1, p.2) :=
  if_pos rfl

theorem closing_own (name : String) (rest : List Token) :
    closing name [] (.release name :: rest) = some ([], rest) :=
  if_pos rfl

theorem closing_append {inner : List Token} (nested : Nested inner) (name : String) (held : List String)
    (rest : List Token) :
    closing name held (inner ++ rest) = (closing name held rest).map fun p => (inner ++ p.1, p.2) := by
  induction nested generalizing held rest with
  | nil =>
    rw [List.nil_append]
    cases closing name held rest <;> rfl
  | @pair other inner next _ _ ihWithin ihNext =>
    simp only [List.cons_append, List.append_assoc]
    rw [closing_press, ihWithin, closing_release, ihNext]
    simp only [Option.map_map, Function.comp_def]

/-- Tokens in which the buttons of `held` are released one after the other, and which nest before, between
    and after these releases. -/
def Unwinds : List String → List Token → Prop
  | [], tokens => Nested tokens
  | top :: below, tokens =>
    ∃ inner rest, tokens = inner ++ .release top :: rest ∧ Nested inner ∧ Unwinds below rest

theorem Unwinds.pair {held : List String} {inner rest : List Token} (name : String) (within : Nested inner)
    (unwinds : Unwinds held rest) : Unwinds held (.press name :: (inner ++ .release name :: rest)) := by
  cases held with
  | nil => exact Nested.pair name within unwinds
  | cons top below =>
    obtain ⟨first, later, rfl, next, unwinds⟩ := unwinds
    exact ⟨.press name :: (inner ++ .release name :: first), later, by simp, .pair name within next, unwinds⟩

theorem unwinds_of_closing {name : String} {held : List String} {tokens inner rest : List Token}
    (found : closing name held tokens = some (inner, rest)) : Unwinds held inner := by
  induction tokens generalizing held inner with
  | nil => cases found
  | cons t tokens ih =>
    unfold closing at found
    split at found
    · rename_i edge
      obtain ⟨⟨before, after⟩, later, same⟩ := Option.map_eq_some_iff.mp found
      cases same
      obtain ⟨between, more, rfl, within, unwinds⟩ := ih later
      rw [Token.eq_press edge]
      exact unwinds.pair t.name within
    · rename_i edge
      split at found
      · rename_i top below same
        obtain ⟨⟨before, after⟩, later, same⟩ := Option.map_eq_some_iff.mp found
        cases same
        exact ⟨[], before, by rw [same, ← Token.eq_release edge]; rfl, .nil, ih later⟩
      · cases found
    · split at found
      · cases found
        exact .nil
      · cases found

theorem closing_eq_some_iff {name : String} {tokens inner rest : List Token} :
    closing name [] tokens = some (inner, rest) ↔
      tokens = inner ++ .release name :: rest ∧ Nested inner := by
  constructor
  · exact fun found => ⟨eq_of_closing found, unwinds_of_closing found⟩
  · rintro ⟨rfl, nested⟩
    rw [closing_append nested, closing_own]
    simp

end Outline

theorem closes_here {before rest : List Token} {t : Token} {j : Nat} :
    Closes (before ++ t :: rest) before.length j ↔ t.edge = .press ∧ ∃ inner after,
      Outline.closing t.name [] rest = some (inner, after) ∧ j = before.length + inner.length + 1 := by
  rw [closes_iff]
  constructor
  · rintro ⟨before', name, inner, after, whole, within, length, rfl⟩
    obtain ⟨rfl, same⟩ := List.append_inj whole length
    obtain ⟨rfl, rfl⟩ := List.cons.inj same
    exact ⟨rfl, inner, after, Outline.closing_eq_some_iff.mpr ⟨rfl, within⟩, rfl⟩
  · rintro ⟨press, inner, after, found, rfl⟩
    obtain ⟨rfl, within⟩ := Outline.closing_eq_some_iff.mp found
    exact ⟨before, t.name, inner, after, by rw [← Token.eq_press press], within, rfl, rfl⟩

theorem Closes.unique {tokens : List Token} {i j k : Nat} (closes : Closes tokens i j)
    (closes' : Closes tokens i k) : j = k := by
  obtain ⟨before, name, inner, after, rfl, _, rfl, _⟩ := closes_iff.mp closes
  obtain ⟨_, inner, after, found, rfl⟩ := closes_here.mp closes
  obtain ⟨_, inner', after', found', rfl⟩ := closes_here.mp closes'
  rw [found] at found'
  cases found'
  rfl

namespace Outline

/-- The places of the clicks and groups of an outline that begins at `start`: where the press of each is, and
    where the release. -/
def groups (start : Nat) : Outline → List (Nat × Nat)
  | .done => []
  | .event _ rest => rest.groups (start + 1)
  | .group _ inner rest =>
    let close := start + inner.tokens.length + 1
    (start, close) :: (inner.groups (start + 1) ++ rest.groups (close + 1))

/-- The places of the explicit terms of an outline that begins at `start`. -/
def events (start : Nat) : Outline → List Nat
  | .done => []
  | .event _ rest => start :: rest.events (start + 1)
  | .group _ inner rest => inner.events (start + 1) ++ rest.events (start + inner.tokens.length + 1 + 1)

theorem groups_within (o : Outline) (start : Nat) :
    ∀ p ∈ o.groups start, start ≤ p.1 ∧ p.1 < p.2 ∧ p.2 < start + o.tokens.length := by
  induction o generalizing start with
  | done => exact fun _ member => absurd member List.not_mem_nil
  | event t rest ih =>
    intro p member
    have bounds := ih _ p member
    simp only [tokens, List.length_cons]
    omega
  | group name inner rest ihInner ihRest =>
    intro p member
    simp only [groups, List.mem_cons, List.mem_append] at member
    simp only [tokens, List.length_cons, List.cons_append, List.length_append]
    rcases member with rfl | member | member
    · dsimp only
      omega
    · have bounds := ihInner _ p member
      omega
    · have bounds := ihRest _ p member
      omega

theorem mem_events {o : Outline} {start i : Nat} :
    i ∈ o.events start ↔
      (start ≤ i ∧ i < start + o.tokens.length) ∧ ∀ p ∈ o.groups start, i ≠ p.1 ∧ i ≠ p.2 := by
  induction o generalizing start with
  | done =>
    have none : ¬(start ≤ i ∧ i < start + 0) := by omega
    exact iff_of_false List.not_mem_nil fun shown => none shown.1
  | event t rest ih =>
    have later := groups_within rest (start + 1)
    simp only [events, groups, tokens, List.mem_cons, List.length_cons, ih]
    constructor
    · rintro (rfl | ⟨range, apart⟩)
      · refine ⟨by omega, fun p member => ?_⟩
        have bounds := later p member
        omega
      · exact ⟨by omega, apart⟩
    · rintro ⟨range, apart⟩
      by_cases here : i = start
      · exact .inl here
      · exact .inr ⟨by omega, apart⟩
  | group name inner rest ihInner ihRest =>
    -- The places in a group and after it lie apart, so that each is in one of the two parts.
    have inside := groups_within inner (start + 1)
    have later := groups_within rest (start + inner.tokens.length + 1 + 1)
    rw [groups, List.forall_mem_cons, List.forall_mem_append]
    simp only [events, tokens, List.mem_append, List.length_cons, List.cons_append, List.length_append,
      ihInner, ihRest]
    constructor
    · rintro (⟨range, apart⟩ | ⟨range, apart⟩)
      · refine ⟨by omega, by omega, apart, fun p member => ?_⟩
        have bounds := later p member
        omega
      · refine ⟨by omega, by omega, fun p member => ?_, apart⟩
        have bounds := inside p member
        omega
    · rintro ⟨range, ends, apart, apart'⟩
      by_cases before : i < start + inner.tokens.length + 1
      · exact .inl ⟨by omega, apart⟩
      · exact .inr ⟨by omega, apart'⟩

/-- A click or group of the outline of tokens is a press that closes and the release that it closes at. The
    tokens are a part of longer ones, so that the places inside a group and after it are those of the whole. -/
theorem closes_of_mem_groups {tokens : List Token} {i j : Nat} (before after : List Token)
    (member : (i, j) ∈ (ofTokens tokens).groups before.length) : Closes (before ++ tokens ++ after) i j := by
  fun_induction ofTokens tokens generalizing before after with
  | case1 => cases member
  | case2 t rest release ih =>
    have closes := ih (before ++ [t]) after (by simpa [groups] using member)
    simpa using closes
  | case3 t rest press inner next found _ ihInner ihNext =>
    obtain ⟨rfl, within⟩ := closing_eq_some_iff.mp found
    simp only [groups, tokens_ofTokens, List.mem_cons, List.mem_append] at member
    rcases member with same | member | member
    · obtain ⟨rfl, rfl⟩ := Prod.mk.inj same
      refine closes_iff.mpr ⟨before, t.name, inner, next ++ after, ?_, within, rfl, rfl⟩
      rw [← Token.eq_press press]
      simp
    · have closes := ihInner (before ++ [t]) (.release t.name :: next ++ after) (by simpa using member)
      simpa using closes
    · have closes := ihNext (before ++ t :: (inner ++ [.release t.name])) after
        (by simpa [Nat.add_assoc] using member)
      simpa using closes
  | case4 t rest press unclosed ih =>
    have closes := ih (before ++ [t]) after (by simpa [groups] using member)
    simpa using closes

theorem ofTokens_pair (name : String) {inner : List Token} (within : Nested inner) (rest : List Token) :
    ofTokens (.press name :: (inner ++ .release name :: rest)) = .group name (ofTokens inner) (ofTokens rest) := by
  have found : closing name [] (inner ++ .release name :: rest) = some (inner, rest) :=
    closing_eq_some_iff.mpr ⟨rfl, within⟩
  rw [ofTokens.eq_def]
  dsimp only [Token.press]
  split
  · rename_i inner' rest' same
    rw [found] at same
    cases same
    rfl
  · rename_i none
    rw [found] at none
    cases none

theorem events_of_nested {tokens : List Token} (nested : Nested tokens) (start : Nat) :
    (ofTokens tokens).events start = [] := by
  induction nested generalizing start with
  | nil => rw [ofTokens]; rfl
  | pair name within _ ihWithin ihNext =>
    rw [ofTokens_pair name within, events, ihWithin, ihNext]
    rfl

theorem nested_of_events {o : Outline} {start : Nat} (none : o.events start = []) : Nested o.tokens := by
  induction o generalizing start with
  | done => exact .nil
  | event t rest => cases none
  | group name inner rest ihInner ihRest =>
    obtain ⟨within, next⟩ := List.append_eq_nil_iff.mp none
    exact .pair name (ihInner within) (ihRest next)

theorem not_closes_of_mem_events {tokens : List Token} {i j : Nat} (before : List Token)
    (member : i ∈ (ofTokens tokens).events before.length) : ¬Closes (before ++ tokens) i j := by
  fun_induction ofTokens tokens generalizing before with
  | case1 => cases member
  | case2 t rest release ih =>
    rcases List.mem_cons.mp member with rfl | member
    · intro closes
      have press := (closes_here.mp closes).1
      rw [release] at press
      cases press
    · simpa using ih (before ++ [t]) (by simpa using member)
  | case3 t rest press inner next found _ _ ihNext =>
    obtain ⟨rfl, within⟩ := closing_eq_some_iff.mp found
    -- What is inside a group nests, and so has no explicit term.
    rw [events, events_of_nested within, tokens_ofTokens] at member
    have later := ihNext (before ++ t :: (inner ++ [.release t.name])) (by simpa [Nat.add_assoc] using member)
    simpa using later
  | case4 t rest press unclosed ih =>
    rcases List.mem_cons.mp member with rfl | member
    · intro closes
      obtain ⟨_, inner, after, found, _⟩ := closes_here.mp closes
      rw [found] at unclosed
      cases unclosed
    · simpa using ih (before ++ [t]) (by simpa using member)

theorem mem_groups_ofTokens {tokens : List Token} {i j : Nat} :
    (i, j) ∈ (ofTokens tokens).groups 0 ↔ Closes tokens i j := by
  have sound {i j : Nat} (member : (i, j) ∈ (ofTokens tokens).groups 0) : Closes tokens i j := by
    simpa using closes_of_mem_groups [] [] member
  refine ⟨sound, fun closes => ?_⟩
  obtain ⟨name, press, _⟩ := closes.ends
  obtain ⟨bound, _⟩ := List.getElem?_eq_some_iff.mp press
  -- A place that is not that of an explicit term belongs to some group.
  have shown : i ∉ (ofTokens tokens).events 0 := fun member => not_closes_of_mem_events [] member closes
  rw [mem_events, tokens_ofTokens] at shown
  obtain ⟨⟨k, l⟩, member, same⟩ : ∃ p ∈ (ofTokens tokens).groups 0, i = p.1 ∨ i = p.2 := by
    simpa [bound, Decidable.or_iff_not_imp_left] using shown
  rcases same with rfl | rfl
  · rwa [closes.unique (sound member)]
  · -- A release is no press.
    obtain ⟨other, _, release⟩ := (sound member).ends
    rw [press] at release
    cases release

theorem mem_events_ofTokens {tokens : List Token} {i : Nat} :
    i ∈ (ofTokens tokens).events 0 ↔
      i < tokens.length ∧ ∀ j, ¬Closes tokens i j ∧ ¬Closes tokens j i := by
  simp only [mem_events, tokens_ofTokens, Nat.zero_le, Nat.zero_add, true_and, ← mem_groups_ofTokens]
  refine and_congr_right fun _ => ⟨fun apart j => ?_, fun apart p member => ?_⟩
  · exact ⟨fun member => (apart _ member).1 rfl, fun member => (apart _ member).2 rfl⟩
  · constructor
    · rintro rfl
      exact (apart p.2).1 member
    · rintro rfl
      exact (apart p.1).2 member

theorem text_done : done.text = "" :=
  rfl

theorem hyphen_notMem_shortName (b : Button) : '-' ∉ b.shortName.toList := fun member =>
  (Grammar.isNameChar_plain (Grammar.isNameChar_shortName b '-' member)).2.2.2 rfl

theorem hyphen_mem_following {o : Outline} : '-' ∈ o.following ↔ '-' ∈ o.text.toList := by
  rcases following_cases o with ⟨same, rfl⟩ | same
  · simp [same, text_done]
  · simp [same]

theorem hyphen_mem_text {o : Outline} (named : o.Named) (start : Nat) :
    '-' ∈ o.text.toList ↔ o.events start ≠ [] := by
  induction o generalizing start with
  | done => simp [text_done, events]
  | event t rest ih => simp [text_event, events]
  | group name inner rest ihInner ihRest =>
    obtain ⟨⟨b, rfl⟩, within, later⟩ := named.group
    have inside := ihInner within (start + 1)
    have after := ihRest later (start + inner.tokens.length + 1 + 1)
    rw [events, ne_eq, List.append_eq_nil_iff, Classical.not_and_iff_not_or_not, ← ne_eq, ← ne_eq,
      ← inside, ← after]
    by_cases empty : inner = .done
    · subst empty
      rw [text_click, text_done]
      simp [hyphen_notMem_shortName, hyphen_mem_following]
    · simp [text_group _ empty, hyphen_notMem_shortName, hyphen_mem_following]

def term? : Outline → Option Grammar.Term
  | .done => none
  | .event t rest => some (.explicit t rest.following)
  | .group name .done rest => some (.click name rest.following)
  | .group name inner rest => some (.group name inner.text.toList rest.following)

theorem termAt_of_term? {o : Outline} (named : o.Named) {t : Grammar.Term} (first : o.term? = some t) :
    ∃ c rest, o.text.toList = c :: rest ∧ Grammar.termAt 0 c rest = .ok t := by
  obtain ⟨spells, closed⟩ : t.Spells o.text.toList ∧ ∀ name inner next, t = .group name inner next →
      Grammar.splitClose 0 (inner ++ ')' :: next) = some (inner, next) := by
    cases o with
    | done => cases first
    | event token rest =>
      obtain ⟨⟨b, e, rfl⟩, _⟩ := named.event
      cases first
      exact ⟨⟨b, e, rfl, (endsClick_following rest).group, text_event _ rest⟩, nofun⟩
    | group name inner rest =>
      obtain ⟨⟨b, rfl⟩, within, _⟩ := named.group
      by_cases empty : inner = .done
      · subst empty
        cases first
        exact ⟨⟨b, rfl, endsClick_following rest, text_click _ rest⟩, nofun⟩
      · have group : t = .group b.shortName inner.text.toList rest.following := by
          cases inner with
          | done => exact absurd rfl empty
          | _ => exact (Option.some.inj first).symm
        subst group
        refine ⟨⟨b, rfl, text_group _ empty rest⟩, ?_⟩
        rintro _ _ _ ⟨⟩
        exact (derives_text within).splitClose_end rest.following
  obtain ⟨c, rest, text, _, found⟩ := Grammar.exists_termAt spells closed 0
  exact ⟨c, rest, text, found⟩

theorem term?_eq_none {o : Outline} : o.term? = none ↔ o = .done := by
  cases o with
  | done => simp [term?]
  | event t rest => simp [term?]
  | group name inner rest => cases inner <;> simp [term?]

theorem term?_congr {left right : Outline} (named : left.Named) (named' : right.Named)
    (same : left.text.toList = right.text.toList) : left.term? = right.term? := by
  cases first : left.term? with
  | none =>
    rw [term?_eq_none.mp first, text_done] at same
    cases first' : right.term? with
    | none => rfl
    | some t =>
      obtain ⟨c, rest, text, _⟩ := termAt_of_term? named' first'
      rw [text] at same
      cases same
  | some t =>
    obtain ⟨c, rest, text, found⟩ := termAt_of_term? named first
    cases first' : right.term? with
    | none =>
      rw [term?_eq_none.mp first', text, text_done] at same
      cases same
    | some t' =>
      obtain ⟨c', rest', text', found'⟩ := termAt_of_term? named' first'
      rw [text, text'] at same
      cases same
      rw [found] at found'
      cases found'
      rfl

theorem text_eq_of_following {left right : Outline} (same : left.following = right.following) :
    left.text.toList = right.text.toList := by
  rcases following_cases left with ⟨none, rfl⟩ | more <;> rcases following_cases right with ⟨none', rfl⟩ | more'
  · rfl
  · rw [none, more'] at same
    cases same
  · rw [more, none'] at same
    cases same
  · rw [more, more'] at same
    exact (List.cons.inj same).2

theorem eq_of_text_eq {left right : Outline} (named : left.Named) (named' : right.Named)
    (same : left.text.toList = right.text.toList) : left = right := by
  induction left generalizing right with
  | done => exact (term?_eq_none.mp (term?_congr named named' same).symm).symm
  | event t rest ih =>
    have first := term?_congr named named' same
    cases right with
    | done => cases first
    | event t' rest' =>
      obtain ⟨rfl, next⟩ : t = t' ∧ rest.following = rest'.following := by simpa [term?] using first
      rw [ih named.event.2 named'.event.2 (text_eq_of_following next)]
    | group name inner rest' => cases inner <;> cases first
  | group name inner rest ihInner ihRest =>
    have first := term?_congr named named' same
    obtain ⟨_, within, later⟩ := named.group
    cases right with
    | done => cases inner <;> cases first
    | event t rest' => cases inner <;> cases first
    | group name' inner' rest' =>
      obtain ⟨_, within', later'⟩ := named'.group
      obtain ⟨rfl, inside, next⟩ : name = name' ∧ inner.text.toList = inner'.text.toList ∧
          rest.following = rest'.following := by
        cases inner <;> cases inner' <;> simp_all [term?]
      rw [ihInner within within' inside, ihRest later later' (text_eq_of_following next)]

end Outline

/-- No press closes at two places. The short form of tokens is the text of one outline of them and of no other:
    its clicks and groups are the presses that close with the releases that they close at, and its explicit
    terms are all other tokens. There is no explicit term just if the tokens nest, and the text has then
    no hyphen in it. -/
theorem condense_groups (keys : List (Button × Edge)) :
    let tokens := keys.map fun key => key.1.token key.2
    let text := Token.condense tokens
    (∀ i j k, Closes tokens i j → Closes tokens i k → j = k) ∧
      (∃ o : Outline, o.text = text ∧ o.tokens = tokens ∧
        (∀ other : Outline, other.text = text → other.tokens = tokens → other = o) ∧
        (∀ i j, (i, j) ∈ o.groups 0 ↔ Closes tokens i j) ∧
        (∀ i, i ∈ o.events 0 ↔ i < tokens.length ∧ ∀ j, ¬Closes tokens i j ∧ ¬Closes tokens j i) ∧
        (o.events 0 = [] ↔ Nested tokens)) ∧
      ('-' ∈ text.toList ↔ ¬Nested tokens) := by
  intro tokens text
  let o := Outline.ofTokens tokens
  have made : o.tokens = tokens := Outline.tokens_ofTokens tokens
  have named (other : Outline) (same : other.tokens = tokens) : other.Named := by
    intro t member
    rw [same] at member
    obtain ⟨key, _, rfl⟩ := List.mem_map.mp member
    exact ⟨key.1, key.2, rfl⟩
  have nests : o.events 0 = [] ↔ Nested tokens :=
    ⟨fun none => made ▸ Outline.nested_of_events none, fun nested => Outline.events_of_nested nested 0⟩
  refine ⟨fun _ _ _ => Closes.unique, ⟨o, rfl, made, ?unique, fun _ _ => Outline.mem_groups_ofTokens,
    fun _ => Outline.mem_events_ofTokens, nests⟩, ?hyphen⟩
  case unique =>
    intro other same made'
    exact Outline.eq_of_text_eq (named other made') (named o made) (congrArg String.toList same)
  case hyphen =>
    rw [← nests]
    exact Outline.hyphen_mem_text (named o made) 0

example : Token.condense [.press "vd", .press "vu", .press "pw", .release "pw", .release "vu", .release "ch"] =
    "vd-press vu(pw) ch-release" := by
  cbv

end Gesture
