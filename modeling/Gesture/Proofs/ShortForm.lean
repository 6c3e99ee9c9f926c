import Gesture.Pattern.Outline
import Gesture.Proofs.Derivation

namespace Gesture

namespace Text

def isPlain (c : Char) : Bool :=
  decide (c.toNat < 0x80) && !(decide (0x41 ≤ c.toNat) && decide (c.toNat ≤ 0x5A))

theorem lowerChar_of_plain {c : Char} (plain : isPlain c = true) (before after : List Char) :
    lowerChar before c after = [c] := by
  simp only [isPlain, Bool.and_eq_true, Bool.not_eq_true', decide_eq_true_eq] at plain
  obtain ⟨ascii, small⟩ := plain
  have noDot : c ≠ 'İ' := by
    rintro rfl
    revert ascii
    decide
  have noSigma : c ≠ 'Σ' := by
    rintro rfl
    revert ascii
    decide
  have code : lowerCode c.toNat = c.toNat := by
    have other : ¬(0x41 ≤ c.toNat ∧ c.toNat ≤ 0x5A) := by simpa using small
    rw [lowerCode, if_pos ascii, if_neg other]
  rw [lowerChar, if_neg noDot, if_neg noSigma, code, Char.ofNat_toNat]

theorem lower_of_plain {text : List Char} (plain : ∀ c ∈ text, isPlain c = true) : lower text = text := by
  have go : ∀ before, lowerAfter before text = text := by
    induction text with
    | nil => exact fun _ => rfl
    | cons c rest ih =>
      intro before
      obtain ⟨first, later⟩ := List.forall_mem_cons.mp plain
      rw [lowerAfter, lowerChar_of_plain first, ih later]
      rfl
  exact go []

end Text

theorem Token.ofText_token (b : Button) (e : Edge) : Token.ofText (b.token e).text = .ok (b.token e) := by
  cases b <;> cases e <;> rfl

namespace Outline

theorem eq_of_closing {name : String} {held : List String} {tokens inner rest : List Token}
    (found : closing name held tokens = some (inner, rest)) : tokens = inner ++ .release name :: rest := by
  induction tokens generalizing held inner with
  | nil => cases found
  | cons t tokens ih =>
    unfold closing at found
    split at found
    · obtain ⟨⟨before, after⟩, later, same⟩ := Option.map_eq_some_iff.mp found
      cases same
      rw [ih later]
      rfl
    · split at found
      · obtain ⟨⟨before, after⟩, later, same⟩ := Option.map_eq_some_iff.mp found
        cases same
        rw [ih later]
        rfl
      · cases found
    · rename_i release
      split at found
      · rename_i same
        cases found
        rw [← same, ← Token.eq_release release]
        rfl
      · cases found

theorem tokens_ofTokens (tokens : List Token) : (ofTokens tokens).tokens = tokens := by
  fun_induction ofTokens tokens with
  | case1 => rfl
  | case2 t rest release ih => rw [Outline.tokens, ih]
  | case3 t rest press inner after closes _ ihInner ihAfter =>
    rw [Outline.tokens, ihInner, ihAfter, eq_of_closing closes, ← Token.eq_press press]
    rfl
  | case4 t rest press open_ ih => rw [Outline.tokens, ih]

def following : Outline → List Char
  | .done => []
  | o => ' ' :: o.text.toList

theorem toList_intercalate_terms (term : String) (o : Outline) :
    (" ".intercalate (term :: o.terms)).toList = term.toList ++ o.following := by
  cases o with
  | done => simp [terms, following]
  | event t rest => simp [terms, following, text]
  | group name inner rest => simp [terms, following, text]

theorem text_event (t : Token) (rest : Outline) :
    (event t rest).text.toList = t.name.toList ++ '-' :: (t.edge.word.toList ++ rest.following) := by
  rw [text, terms, toList_intercalate_terms]
  simp [Token.text]

theorem text_click (name : String) (rest : Outline) :
    (group name .done rest).text.toList = name.toList ++ rest.following := by
  rw [text, terms, toList_intercalate_terms]
  rfl

theorem text_group (name : String) {inner : Outline} (some : inner ≠ .done) (rest : Outline) :
    (group name inner rest).text.toList =
      name.toList ++ '(' :: (inner.text.toList ++ ')' :: rest.following) := by
  rw [text, terms, toList_intercalate_terms]
  cases inner with
  | done => exact absurd rfl some
  | event t more => simp [terms, text]
  | group name inner more => simp [terms, text]

theorem following_cases (o : Outline) :
    o.following = [] ∧ o = .done ∨ o.following = ' ' :: o.text.toList := by
  cases o with
  | done => exact .inl ⟨rfl, rfl⟩
  | _ => exact .inr rfl

theorem derives_following {o : Outline} {tokens : List Token}
    (derives : Grammar.Derives o.text.toList tokens) : Grammar.Derives o.following tokens := by
  rcases following_cases o with ⟨same, rfl⟩ | same
  · exact derives
  · rw [same]
    exact .blank rfl derives

theorem endsClick_following (o : Outline) : Grammar.EndsClick o.following := by
  rcases following_cases o with ⟨same, _⟩ | same
  · rw [same]
    exact ⟨by simp, by simp, by simp⟩
  · rw [same]
    refine ⟨?_, ?_, ?_⟩
    · rintro c ⟨⟩
      rfl
    · rintro ⟨⟩
    · rintro e ⟨more, ⟨⟩⟩

def Named (o : Outline) : Prop :=
  ∀ t ∈ o.tokens, ∃ (b : Button) (e : Edge), t = b.token e

theorem Named.event {t : Token} {rest : Outline} (named : (event t rest).Named) :
    (∃ (b : Button) (e : Edge), t = b.token e) ∧ rest.Named :=
  List.forall_mem_cons.mp named

theorem Named.group {name : String} {inner rest : Outline} (named : (group name inner rest).Named) :
    (∃ b : Button, name = b.shortName) ∧ inner.Named ∧ rest.Named := by
  rw [Named, Outline.tokens, List.cons_append, List.forall_mem_cons, List.forall_mem_append,
    List.forall_mem_cons] at named
  obtain ⟨⟨b, e, same⟩, within, _, later⟩ := named
  exact ⟨⟨b, congrArg Token.name same⟩, within, later⟩

theorem derives_text {o : Outline} (named : o.Named) :
    Grammar.Derives o.text.toList o.tokens := by
  induction o with
  | done => exact .nil
  | event t rest ih =>
    obtain ⟨⟨b, e, rfl⟩, later⟩ := named.event
    rw [text_event]
    exact .event b e (derives_following (ih later)) (endsClick_following rest).group
  | group name inner rest ihInner ihRest =>
    obtain ⟨⟨b, rfl⟩, within, later⟩ := named.group
    have next := derives_following (ihRest later)
    by_cases empty : inner = .done
    · subst empty
      rw [text_click]
      exact .click b next (endsClick_following rest)
    · rw [text_group _ empty]
      exact .group b (ihInner within) next

theorem plain_shortName (b : Button) : ∀ c ∈ b.shortName.toList, Text.isPlain c = true :=
  List.all_eq_true.mp (by cases b <;> rfl)

theorem plain_word (e : Edge) : ∀ c ∈ e.word.toList, Text.isPlain c = true :=
  List.all_eq_true.mp (by cases e <;> rfl)

theorem plain_following {o : Outline} (plain : ∀ c ∈ o.text.toList, Text.isPlain c = true) :
    ∀ c ∈ o.following, Text.isPlain c = true := by
  rcases following_cases o with ⟨same, _⟩ | same
  · simp [same]
  · rw [same]
    exact List.forall_mem_cons.mpr ⟨rfl, plain⟩

theorem plain_text {o : Outline} (named : o.Named) :
    ∀ c ∈ o.text.toList, Text.isPlain c = true := by
  induction o with
  | done => simp [text, terms]
  | event t rest ih =>
    obtain ⟨⟨b, e, rfl⟩, later⟩ := named.event
    rw [text_event, List.forall_mem_append, List.forall_mem_cons, List.forall_mem_append]
    exact ⟨plain_shortName b, rfl, plain_word e, plain_following (ih later)⟩
  | group name inner rest ihInner ihRest =>
    obtain ⟨⟨b, rfl⟩, within, later⟩ := named.group
    have next := plain_following (ihRest later)
    by_cases empty : inner = .done
    · subst empty
      rw [text_click, List.forall_mem_append]
      exact ⟨plain_shortName b, next⟩
    · rw [text_group _ empty, List.forall_mem_append, List.forall_mem_cons, List.forall_mem_append,
        List.forall_mem_cons]
      exact ⟨plain_shortName b, rfl, ihInner within, rfl, next⟩

end Outline

theorem mapM_ofText (keys : List (Button × Edge)) :
    (keys.map fun key => (key.1.token key.2).text).mapM Token.ofText =
      .ok (keys.map fun key => key.1.token key.2) := by
  induction keys with
  | nil => rfl
  | cons key rest ih =>
    rw [List.map_cons, List.mapM_cons, Token.ofText_token, ih]
    rfl

/-- The short form of a sequence of tokens is a pattern that stands for them. The tokens themselves are
    read from their texts. -/
theorem parse_condense (keys : List (Button × Edge)) :
    let tokens := keys.map fun key => key.1.token key.2
    (tokens.map (·.text)).mapM Token.ofText = .ok tokens ∧
      Grammar.parse (Token.condense tokens) = .ok tokens := by
  intro tokens
  have named : ∀ t ∈ tokens, ∃ (b : Button) (e : Edge), t = b.token e := by
    intro t member
    obtain ⟨key, _, rfl⟩ := List.mem_map.mp member
    exact ⟨key.1, key.2, rfl⟩
  constructor
  · rw [List.map_map]
    exact mapM_ofText keys
  · have same := Outline.tokens_ofTokens tokens
    rw [← same] at named
    rw [Grammar.parse_eq_ok_iff, Token.condense, Text.lower_of_plain (Outline.plain_text named)]
    have derives := Outline.derives_text named
    rwa [same] at derives

end Gesture
