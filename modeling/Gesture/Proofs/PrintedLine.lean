import Gesture.Proofs.LineOrder
import Gesture.Proofs.ShortForm
import Gesture.Proofs.Splits
import Gesture.Proofs.Startup
import Mathlib.Data.List.DropRight

namespace Gesture

namespace Text

theorem strip_eq (text : List Char) : strip text = (text.dropWhile isBlank).rdropWhile isBlank := rfl

theorem strip_prefix (text : List Char) : strip text <+: text.dropWhile isBlank :=
  List.rdropWhile_prefix _ _

theorem exists_strip (text : List Char) : ∃ left right, text = left ++ strip text ++ right ∧
    (∀ c ∈ left, isBlank c = true) ∧ ∀ c ∈ right, isBlank c = true := by
  refine ⟨text.takeWhile isBlank, (text.dropWhile isBlank).rtakeWhile isBlank, ?_,
    fun c => List.mem_takeWhile_imp, fun c => List.mem_rtakeWhile_imp⟩
  rw [strip_eq, List.append_assoc, List.rdropWhile_append_rtakeWhile, List.takeWhile_append_dropWhile]

theorem strip_strip (text : List Char) : strip (strip text) = strip text := by
  have kept : (strip text).dropWhile isBlank = strip text := by
    obtain ⟨rest, parted⟩ := strip_prefix text
    cases stripped : strip text with
    | nil => rfl
    | cons c more =>
      have begins := List.head?_dropWhile_not isBlank text
      rw [← parted, stripped] at begins
      exact List.dropWhile_cons_of_neg (by simpa using begins)
  rw [strip_eq, kept]
  exact List.rdropWhile_idempotent _ _

theorem mem_strip {text : List Char} {c : Char} (member : c ∈ text) (other : isBlank c = false) :
    c ∈ strip text := by
  obtain ⟨left, right, same, blank, blank'⟩ := exists_strip text
  have apart : ∀ side : List Char, (∀ d ∈ side, isBlank d = true) → c ∉ side := by
    intro side blank within
    simp [blank c within] at other
  rw [same, List.mem_append, List.mem_append] at member
  simpa [apart left blank, apart right blank'] using member

theorem strip_cons_prefix {c : Char} (other : isBlank c = false) (rest : List Char) :
    strip (c :: rest) <+: c :: rest := by
  have kept : (c :: rest).dropWhile isBlank = c :: rest := List.dropWhile_cons_of_neg (by simp [other])
  have within := strip_prefix (c :: rest)
  rwa [kept] at within

theorem getLast?_strip {text : List Char} {c : Char} (last : text.getLast? = some c)
    (other : isBlank c = false) : (strip text).getLast? = some c := by
  obtain ⟨left, right, same, blank, blank'⟩ := exists_strip text
  have apart : ∀ side : List Char, (∀ d ∈ side, isBlank d = true) → side.getLast? ≠ some c := by
    intro side blank last
    simp [blank c (List.mem_of_getLast? last)] at other
  rw [same, List.getLast?_append, List.getLast?_append, Option.or_eq_some_iff, Option.or_eq_some_iff] at last
  rcases last with last | ⟨_, last | ⟨_, last⟩⟩
  · exact absurd last (apart right blank')
  · exact last
  · exact absurd last (apart left blank)

theorem isBlank_of_getLast?_strip {text : List Char} {c : Char} (last : (strip text).getLast? = some c) :
    isBlank c = false := by
  have some : strip text ≠ [] := fun none => by simp [none] at last
  rw [List.getLast?_eq_some_getLast some, Option.some.injEq] at last
  rw [← last, ← Bool.not_eq_true]
  exact List.rdropWhile_last_not isBlank (text.dropWhile isBlank) some

theorem mem_lower {text : List Char} {c : Char} (plain : isPlain c = true) (member : c ∈ text) :
    c ∈ lower text := by
  have go : ∀ before, c ∈ lowerAfter before text := by
    induction text with
    | nil => cases member
    | cons d rest ih =>
      intro before
      rw [lowerAfter, List.mem_append]
      rcases List.mem_cons.mp member with rfl | later
      · exact .inl (by simp [lowerChar_of_plain plain])
      · exact .inr (ih later _)
  exact go []

end Text

namespace Grammar

theorem Derives.named {text : List Char} {tokens : List Token} (derives : Derives text tokens) :
    ∀ t ∈ tokens, ∃ (b : Button) (e : Edge), t = b.token e := by
  induction derives with
  | nil => simp
  | blank _ _ ih => exact ih
  | event b e _ _ ih => exact List.forall_mem_cons.mpr ⟨⟨b, e, rfl⟩, ih⟩
  | click b _ _ ih =>
    exact List.forall_mem_cons.mpr ⟨⟨b, .press, rfl⟩, List.forall_mem_cons.mpr ⟨⟨b, .release, rfl⟩, ih⟩⟩
  | group b _ _ ihWithin ihNext =>
    exact List.forall_mem_cons.mpr ⟨⟨b, .press, rfl⟩,
      List.forall_mem_append.mpr ⟨ihWithin, List.forall_mem_cons.mpr ⟨⟨b, .release, rfl⟩, ihNext⟩⟩⟩

theorem Derives.noComma {text : List Char} {tokens : List Token} (derives : Derives text tokens) :
    ',' ∉ text := by
  have name : ∀ b : Button, ',' ∉ b.shortName.toList := by
    intro b
    cases b <;> decide
  have word : ∀ e : Edge, ',' ∉ e.word.toList := by
    intro e
    cases e <;> decide
  induction derives with
  | nil => simp
  | blank blank _ ih =>
    rintro (_ | ⟨_, later⟩)
    · revert blank
      decide
    · exact ih later
  | event b e _ _ ih => simp [name, word, ih]
  | click b _ _ ih => simp [name, ih]
  | group b _ _ ihWithin ihNext => simp [name, ihWithin, ihNext]

theorem noComma_of_parse {pattern : String} {tokens : List Token} (read : parse pattern = .ok tokens) :
    ',' ∉ pattern.toList :=
  fun member => (parse_eq_ok_iff.mp read).noComma (Text.mem_lower (by decide) member)

end Grammar

theorem Token.condense_cons (t : Token) (rest : List Token) :
    ∃ more, (Token.condense (t :: rest)).toList = t.name.toList ++ more := by
  unfold Token.condense Outline.ofTokens
  split
  · exact ⟨_, Outline.text_event _ _⟩
  · split
    · rename_i inner after _
      by_cases empty : Outline.ofTokens inner = .done
      · exact ⟨_, by rw [empty, Outline.text_click]⟩
      · exact ⟨_, Outline.text_group _ empty _⟩
    · exact ⟨_, Outline.text_event _ _⟩

theorem Token.parse_condense_of_parse {pattern : String} {tokens : List Token}
    (read : Grammar.parse pattern = .ok tokens) : Grammar.parse (Token.condense tokens) = .ok tokens := by
  have named := (Grammar.parse_eq_ok_iff.mp read).named
  have same := Outline.tokens_ofTokens tokens
  rw [← same] at named
  rw [Grammar.parse_eq_ok_iff, Token.condense, Text.lower_of_plain (Outline.plain_text named)]
  have derives := Outline.derives_text named
  rwa [same] at derives

namespace Condition

theorem parse_eq_refused {text : String} :
    (∃ r, parse text = .error (.refused r)) ↔
      ofWord? (String.ofList (Text.lower (Text.strip text.toList))) = none ∧
        ∀ regex, expression? text = some regex →
          ∃ cause position, Regex.compile regex = .error (.invalid cause position) := by
  have withRegex {make : String → Condition} {regex : List Char} :
      (∃ r, withRegex text make regex = .error (.refused r)) ↔
        ∃ cause position, Regex.compile (String.ofList regex) = .error (.invalid cause position) := by
    unfold withRegex
    dsimp only
    cases Regex.compile (String.ofList regex) with
    | ok compiled => simp
    | error e => cases e <;> simp
  unfold parse expression?
  dsimp only
  cases ofWord? (String.ofList (Text.lower (Text.strip text.toList))) with
  | some c => simp
  | none =>
    cases argument? "app" (Text.strip text.toList) with
    | some regex => simp [withRegex]
    | none => cases argument? "window" (Text.strip text.toList) <;> simp [withRegex]

theorem ofWord?_eq_none {text : List Char} {c : Char} (mark : c = ',' ∨ c = ')') (member : c ∈ text) :
    ofWord? (String.ofList (Text.lower text)) = none := by
  rw [Option.eq_none_iff_forall_ne_some]
  intro condition known
  obtain ⟨before, after, same, _⟩ := List.lookup_eq_some_iff.mp known
  have plain : ∀ named ∈ words, ',' ∉ named.1.toList ∧ ')' ∉ named.1.toList := by decide
  obtain ⟨comma, closing⟩ := plain (String.ofList (Text.lower text), condition) (by simp [same])
  rw [String.toList_ofList] at comma closing
  rcases mark with rfl | rfl
  · exact comma (Text.mem_lower (by decide) member)
  · exact closing (Text.mem_lower (by decide) member)

theorem startsWithLetters_cons_iff {w c : Char} {word text : List Char} :
    startsWithLetters (w :: word) (c :: text) = true ↔
      Text.sameLetter w.toNat c.toNat = true ∧ startsWithLetters word text = true :=
  Bool.and_eq_true_iff

theorem startsWithLetters_of_within {word text longer : List Char} (within : text <+: longer)
    (starts : startsWithLetters word text = true) : startsWithLetters word longer = true := by
  induction word generalizing text longer with
  | nil => rfl
  | cons w word ih =>
    cases text with
    | nil => cases starts
    | cons c text =>
      obtain ⟨rest, rfl⟩ := within
      obtain ⟨first, later⟩ := startsWithLetters_cons_iff.mp starts
      exact startsWithLetters_cons_iff.mpr ⟨first, ih (List.prefix_append text rest) later⟩

theorem startsWithLetters_take {word text more : List Char}
    (starts : startsWithLetters word (text ++ more) = true) :
    startsWithLetters (word.take text.length) text = true := by
  induction word generalizing text with
  | nil =>
    rw [List.take_nil]
    rfl
  | cons w word ih =>
    cases text with
    | nil => rfl
    | cons c text =>
      obtain ⟨first, later⟩ := startsWithLetters_cons_iff.mp starts
      exact startsWithLetters_cons_iff.mpr ⟨first, ih later⟩

theorem starts_of_argument? {word : String} {text regex : List Char}
    (writes : argument? word text = some regex) : startsWithLetters word.toList text = true := by
  unfold argument? at writes
  split at writes
  · assumption
  · cases writes

theorem last_of_argument? {word : String} {text regex : List Char}
    (writes : argument? word text = some regex) : text.getLast? = some ')' := by
  unfold argument? at writes
  split at writes
  · split at writes
    · rename_i rest opened
      split at writes
      · rename_i closed
        have some : rest ≠ [] := by
          rintro rfl
          cases closed
        have whole := List.take_append_drop word.length text
        rw [← whole, opened, List.getLast?_append, List.getLast?_cons, closed]
        rfl
      · cases writes
    · cases writes
  · cases writes

theorem expression?_eq_none {text : String}
    (open_ : (Text.strip text.toList).getLast? ≠ some ')' ∨
      ∀ word ∈ ["app", "window"], startsWithLetters word.toList (Text.strip text.toList) = false) :
    expression? text = none := by
  have argument (word : String) (member : word ∈ ["app", "window"]) :
      argument? word (Text.strip text.toList) = none := by
    rw [Option.eq_none_iff_forall_ne_some]
    intro regex writes
    rcases open_ with last | other
    · exact last (last_of_argument? writes)
    · have starts := starts_of_argument? writes
      rw [other word member] at starts
      cases starts
  unfold expression?
  dsimp only
  split
  · rfl
  · rw [argument "app" (by simp), argument "window" (by simp)]
    rfl

theorem refused_of_shortName (b : Button) {text : String} {more : List Char}
    (begins : text.toList = b.shortName.toList ++ more) (comma : ',' ∈ text.toList) :
    ∃ r, parse text = .error (.refused r) := by
  obtain ⟨first, name, named⟩ := List.exists_cons_of_ne_nil (Grammar.shortName_ne_nil b)
  have plain := (Grammar.isNameChar_plain (Grammar.isNameChar_shortName b first (by simp [named]))).1
  have within : Text.strip text.toList <+: b.shortName.toList ++ more := by
    rw [begins, named, List.cons_append]
    exact Text.strip_cons_prefix plain _
  have other : ∀ word ∈ ["app", "window"], startsWithLetters word.toList (Text.strip text.toList) = false := by
    intro word member
    rw [Bool.eq_false_iff]
    intro starts
    have letters := startsWithLetters_take (startsWithLetters_of_within within starts)
    rcases List.mem_pair.mp member with rfl | rfl <;> cases b <;> revert letters <;> decide
  refine parse_eq_refused.mpr ⟨ofWord?_eq_none (.inl rfl) (Text.mem_strip comma (by decide)), ?_⟩
  simp [expression?_eq_none (.inr other)]

theorem exists_last_of_word {text : String} {c : Condition} (read : parse text = .ok c)
    (plain : c.regex? = none) : ∃ last, (Text.strip text.toList).getLast? = some last ∧ last ≠ ')' := by
  unfold parse at read
  dsimp only at read
  split at read
  · rename_i known
    cases last : (Text.strip text.toList).getLast? with
    | none =>
      rw [List.getLast?_eq_none_iff] at last
      rw [last] at known
      cases known
    | some c =>
      refine ⟨c, rfl, ?_⟩
      rintro rfl
      rw [ofWord?_eq_none (.inr rfl) (List.mem_of_getLast? last)] at known
      cases known
  · split at read
    · obtain ⟨_, rfl⟩ := withRegex_eq_ok.mp read
      cases plain
    · obtain ⟨_, rfl⟩ := withRegex_eq_ok.mp read
      cases plain
    · cases read

end Condition

namespace Action

theorem ofParts_eq_refused {parts : Parts} :
    (∃ r, ofParts parts = .error (.refused r)) ↔
      (∀ limit, Kind.parse parts.action ≠ .error (.beyond limit)) ∧
        ∀ kind tokens, Kind.parse parts.action = .ok kind → Grammar.parse parts.pattern = .ok tokens →
          tokens ≠ [] → ∃ r, Condition.parse parts.condition = .error (.refused r) := by
  rw [ofParts_eq]
  rcases Kind.parse parts.action with (r | limit) | kind
  · simp
  · simp
  · rcases Grammar.parse parts.pattern with e | _ | ⟨t, tokens⟩
    · simp
    · simp
    · simp [map_eq_error]

def parts (a : Action) : Parts :=
  ⟨a.text, Token.condense a.pattern, a.conditionText⟩

theorem ofParts_parts {parts : Parts} {a : Action} (read : ofParts parts = .ok a) :
    ofParts a.parts = .ok a := by
  have pattern := Token.parse_condense_of_parse (readFrom_of_ofParts read).pattern
  obtain ⟨kind, tokens, condition, ofKind, ofPattern, ofCondition, rfl⟩ := parts_of_ofParts read
  have stripped := Text.strip_strip parts.condition.toList
  have again : Condition.parse (String.ofList (Text.strip parts.condition.toList)) = .ok condition :=
    Condition.parse_of_strip (by rw [String.toList_ofList, stripped]) ofCondition
  cases tokens with
  | nil => simp [ofParts_eq, ofKind, ofPattern] at read
  | cons t tokens =>
    rw [ofParts_eq]
    simp only [Action.parts, ofKind, pattern, again, String.toList_ofList, stripped, Except.map]

/-- Whether another reading of a printed action takes up its pattern: the text of the action begins with that
    of another and a pattern, and the rest of the line writes an expression. -/
def Overreads (a : Action) (regex : String) : Prop :=
  ∃ text pattern rest kind tokens, a.text = text ++ "," ++ pattern ++ "," ++ rest ∧
    Kind.parse text = .ok kind ∧ Grammar.parse pattern = .ok tokens ∧ tokens ≠ [] ∧
    Condition.expression? (rest ++ "," ++ Token.condense a.pattern ++ "," ++ a.conditionText) = some regex

theorem toList_line (a : Action) : a.line.toList = "action=".toList ++ a.parts.joined := by
  simp [line, parts, Parts.joined]

section

variable {line : String} {a : Action}

theorem split_parts {parts : Parts} (read : ofParts parts = .ok a) : a.parts.Split a.parts.joined :=
  ⟨rfl, Grammar.noComma_of_parse (readFrom_of_ofParts (ofParts_parts read)).pattern⟩

theorem parseLine_line_iff {parts : Parts} (read : ofParts parts = .ok a) :
    parseLine a.line = .ok a ↔ ∀ other : Parts, other.Split a.parts.joined →
      other.action.length < a.text.length → ∃ r, ofParts other = .error (.refused r) := by
  rw [parseLine_eq_ok, toList_line]
  constructor
  · rintro ⟨text, same, taken, split, own, first⟩ other split' shorter
    obtain rfl := List.append_cancel_left same
    rw [(readFrom_of_ofParts own).text] at shorter
    exact first other split' shorter
  · exact fun first => ⟨_, rfl, a.parts, split_parts read, ofParts_parts read, first⟩

theorem refused_of_parts {parts : Parts} (read : ofParts parts = .ok a) :
    ∃ r, Condition.parse (a.parts.pattern ++ "," ++ a.parts.condition) = .error (.refused r) := by
  obtain ⟨_, ofKind, ofPattern, _⟩ := readFrom_of_ofParts read
  cases tokens : a.pattern with
  | nil =>
    rw [ofParts_eq, ofKind, ofPattern, tokens] at read
    cases read
  | cons t rest =>
    -- A pattern has a token, and its text begins with the name of a button.
    obtain ⟨b, e, rfl⟩ := (Grammar.parse_eq_ok_iff.mp ofPattern).named t (by simp [tokens])
    obtain ⟨more, begins⟩ := Token.condense_cons (b.token e) rest
    have text : (a.parts.pattern ++ "," ++ a.parts.condition).toList =
        b.shortName.toList ++ (more ++ ',' :: a.parts.condition.toList) := by
      rw [Action.parts, tokens]
      simp [begins, show (b.token e).name = b.shortName from rfl]
    exact Condition.refused_of_shortName b text (by simp)

/-- The splits of a printed action with a shorter text of an action are refused unless they take up an
    expression that may be one. -/
theorem refused_iff (read : parseLine line = .ok a) :
    (∀ other : Parts, other.Split a.parts.joined → other.action.length < a.text.length →
        ∃ r, ofParts other = .error (.refused r)) ↔
      ∀ regex, a.Overreads regex → ∃ cause position, Regex.compile regex = .error (.invalid cause position) := by
  obtain ⟨text, begins, parts, split, own, first⟩ := parseLine_eq_ok.mp read
  have action : parts.action = a.text := (readFrom_of_ofParts own).text.symm
  constructor
  · rintro refused regex ⟨text, pattern, rest, kind, tokens, within, ofKind, ofPattern, some, writes⟩
    have split' : (⟨text, pattern, rest ++ "," ++ a.parts.pattern ++ "," ++ a.parts.condition⟩ : Parts).Split
        a.parts.joined :=
      ⟨by simp [Parts.joined, Action.parts, within], Grammar.noComma_of_parse ofPattern⟩
    have shorter : text.length < a.text.length := by
      rw [within]
      simp only [String.length_append]
      have comma : ",".length = 1 := rfl
      omega
    obtain ⟨_, refuses⟩ := ofParts_eq_refused.mp (refused _ split' shorter)
    exact (Condition.parse_eq_refused.mp (refuses kind tokens ofKind ofPattern some)).2 regex writes
  · rintro invalid other split' shorter
    -- The line that was read has the same split but for the condition, and it was refused.
    have refused {condition : String} (same : (⟨other.action, other.pattern, condition⟩ : Parts).Split text) :
        ∀ limit, Kind.parse other.action ≠ .error (.beyond limit) :=
      (ofParts_eq_refused.mp (first _ same (action ▸ shorter))).1
    rcases split'.cases_of_shorter (split_parts own) shorter with ⟨within, condition⟩ | ⟨rest, within, condition⟩
    · have same : (⟨other.action, other.pattern, parts.pattern ++ "," ++ parts.condition⟩ : Parts).Split text :=
        ⟨by simp [split.text, Parts.joined, action, show a.text = _ from within], split'.pattern⟩
      refine ofParts_eq_refused.mpr ⟨refused same, fun _ _ _ _ _ => ?_⟩
      rw [condition]
      exact refused_of_parts own
    · have same : (⟨other.action, other.pattern,
          rest ++ "," ++ parts.pattern ++ "," ++ parts.condition⟩ : Parts).Split text :=
        ⟨by simp [split.text, Parts.joined, action, show a.text = _ from within], split'.pattern⟩
      refine ofParts_eq_refused.mpr ⟨refused same, fun kind tokens ofKind ofPattern some => ?_⟩
      rw [condition]
      refine Condition.parse_eq_refused.mpr ⟨Condition.ofWord?_eq_none (.inl rfl)
        (Text.mem_strip (by simp) (by decide)), fun regex writes => ?_⟩
      exact invalid regex ⟨_, _, rest, kind, tokens, within, ofKind, ofPattern, some, writes⟩

/-- A line that is read is printed as a line whose three texts say the same. That line is read as the same
    again just if it does not begin, up to a comma in the text of the action, like a line with another action
    and the rest of it as an expression; so it is if the condition has no expression. It is never refused. -/
theorem parseLine_line (read : parseLine line = .ok a) :
    ofParts a.parts = .ok a ∧
      (parseLine a.line = .ok a ↔
        ∀ regex, a.Overreads regex → ∃ cause position, Regex.compile regex = .error (.invalid cause position)) ∧
      (a.condition.regex? = none → parseLine a.line = .ok a) ∧
      ∀ r, parseLine a.line ≠ .error (.refused r) := by
  obtain ⟨parts, own⟩ := parts_of_parseLine read
  have again := (parseLine_line_iff own).trans (refused_iff read)
  refine ⟨ofParts_parts own, again, fun plain => again.mpr ?_, fun r failed => ?_⟩
  · rintro regex ⟨text, pattern, rest, _, _, _, _, _, _, writes⟩
    -- An expression would end with the parenthesis that the text of this condition does not end with.
    obtain ⟨last, ends, other⟩ := Condition.exists_last_of_word (readFrom_of_ofParts own).condition plain
    have condition : a.conditionText.toList.getLast? = some last := by
      rw [conditionText_of_ofParts own, String.toList_ofList, ends]
    have none : Condition.expression?
        (rest ++ "," ++ Token.condense a.pattern ++ "," ++ a.conditionText) = none := by
      refine Condition.expression?_eq_none (.inl ?_)
      have ends' : (rest ++ "," ++ Token.condense a.pattern ++ "," ++ a.conditionText).toList.getLast? =
          some last := by
        rw [String.toList_append, List.getLast?_append, condition]
        rfl
      rw [Text.getLast?_strip ends' (Text.isBlank_of_getLast?_strip ends)]
      simpa using other
    rw [none] at writes
    cases writes
  · have among : a.parts ∈ splits a.parts.joined := mem_splits.mpr (split_parts own)
    rw [parseLine, toList_line] at failed
    simp only [List.isPrefixOf_iff_prefix, List.prefix_append, if_true, List.drop_left] at failed
    exact firstOf_ne_refused among (ofParts_parts own) r failed

end

def openSet : Action where
  text := "cmd(a),vd,app([)"
  kind := .shell "a),vd,app(["
  pattern := [Button.volumeUp.token .press, Button.volumeUp.token .release]
  condition := .app "]"
  conditionText := "app(])"

/-- The line of that action is read as another one. -/
theorem parseLine_openSet_ne :
    parseLine "action=cmd(a),vd,app([),vu-press vu-release,app(])" = .ok openSet ∧
      parseLine openSet.line = .ok ⟨"cmd(a)", .shell "a",
        [Button.volumeDown.token .press, Button.volumeDown.token .release],
        .app "[),vu,app(]", "app([),vu,app(])"⟩ ∧ parseLine openSet.line ≠ .ok openSet := by
  have other : parseLine openSet.line = .ok ⟨"cmd(a)", .shell "a",
      [Button.volumeDown.token .press, Button.volumeDown.token .release],
      .app "[),vu,app(]", "app([),vu,app(])"⟩ := by
    decide +kernel
  refine ⟨by decide +kernel, other, ?_⟩
  rw [other]
  decide

/-- At the home screen the same action is read again, though its pattern is printed otherwise. -/
def openSetAtHome : Action :=
  { openSet with condition := .home, conditionText := "Home" }

theorem parseLine_line_openSetAtHome :
    parseLine "action=cmd(a),vd,app([),VU-press VU-release, Home " = .ok openSetAtHome ∧
      openSetAtHome.condition.regex? = none ∧ openSetAtHome.line = "action=cmd(a),vd,app([),vu,Home" ∧
      parseLine openSetAtHome.line = .ok openSetAtHome := by
  have read : parseLine "action=cmd(a),vd,app([),VU-press VU-release, Home " = .ok openSetAtHome := by
    decide +kernel
  obtain ⟨_, _, plain, _⟩ := parseLine_line read
  exact ⟨read, rfl, by decide +kernel, plain rfl⟩

end Action

end Gesture
