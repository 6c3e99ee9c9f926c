import Gesture.Proofs.Lines
import Gesture.Recognizer

namespace Gesture

def Condition.regex? : Condition → Option String
  | .app regex | .title regex => some regex
  | _ => none

def Condition.Compiles (c : Condition) : Prop :=
  ∀ regex, c.regex? = some regex → ∃ compiled, Regex.compile regex = .ok compiled

namespace Condition

theorem compiles_of_ofWord? {word : String} {c : Condition} (known : ofWord? word = some c) :
    c.Compiles := by
  obtain ⟨before, after, same, _⟩ := List.lookup_eq_some_iff.mp known
  have plain : ∀ named ∈ words, named.2.regex? = none := by decide
  have none : c.regex? = none := plain (word, c) (by simp [same])
  intro regex brings
  rw [none] at brings
  cases brings

theorem compiles_of_withRegex {text : String} {make : String → Condition} {regex : List Char}
    {c : Condition} (brings : ∀ text, (make text).regex? = some text)
    (read : withRegex text make regex = .ok c) : c.Compiles := by
  unfold withRegex at read
  dsimp only at read
  split at read
  · rename_i compiled valid
    cases read
    intro regex same
    rw [brings] at same
    cases same
    exact ⟨compiled, valid⟩
  all_goals cases read

theorem compiles_of_parse {text : String} {c : Condition} (read : parse text = .ok c) : c.Compiles := by
  unfold parse at read
  dsimp only at read
  split at read
  · rename_i known
    cases read
    exact compiles_of_ofWord? known
  · split at read
    · exact compiles_of_withRegex (fun _ => rfl) read
    · exact compiles_of_withRegex (fun _ => rfl) read
    · cases read

end Condition

theorem Kind.interval_positive {text command : String} {interval : Nat}
    (read : Kind.parse text = .ok (.repeating interval command)) : 0 < interval := by
  have repeated : ∀ digits rest,
      Kind.parseRepeating text digits rest = .ok (.repeating interval command) → 0 < interval := by
    intro digits rest read
    simp only [Kind.parseRepeating] at read
    split at read
    · cases read
    split at read
    · cases read
    rename_i positive
    split at read
    · cases read
    · cases read
      exact Nat.pos_of_ne_zero positive
  unfold Kind.parse at read
  split at read
  · dsimp only at read
    split at read <;> cases read
  split at read
  · exact repeated _ _ read
  · split at read <;> cases read

namespace Action

structure ReadFrom (a : Action) (parts : Parts) : Prop where
  text : a.text = parts.action
  kind : Kind.parse parts.action = .ok a.kind
  pattern : Grammar.parse parts.pattern = .ok a.pattern
  condition : Condition.parse parts.condition = .ok a.condition

theorem parts_of_ofParts {parts : Parts} {a : Action} (read : ofParts parts = .ok a) :
    ∃ kind pattern condition, Kind.parse parts.action = .ok kind ∧
      Grammar.parse parts.pattern = .ok pattern ∧ Condition.parse parts.condition = .ok condition ∧
      a = ⟨parts.action, kind, pattern, condition, String.ofList (Text.strip parts.condition.toList)⟩ := by
  rw [ofParts_eq] at read
  split at read
  · cases read
  · cases read
  · cases read
  · rename_i ofKind ofPattern
    obtain ⟨condition, ofCondition, rfl⟩ := map_eq_ok read
    exact ⟨_, _, condition, ofKind, ofPattern, ofCondition, rfl⟩

theorem readFrom_of_ofParts {parts : Parts} {a : Action} (read : ofParts parts = .ok a) :
    a.ReadFrom parts := by
  obtain ⟨kind, pattern, condition, ofKind, ofPattern, ofCondition, rfl⟩ := parts_of_ofParts read
  exact ⟨rfl, ofKind, ofPattern, ofCondition⟩

theorem conditionText_of_ofParts {parts : Parts} {a : Action} (read : ofParts parts = .ok a) :
    a.conditionText = String.ofList (Text.strip parts.condition.toList) := by
  obtain ⟨_, _, _, _, _, _, rfl⟩ := parts_of_ofParts read
  rfl

theorem parts_of_firstOf {refusal : Refusal} {ways : List Parts} {a : Action}
    (read : firstOf refusal ways = .ok a) : ∃ parts, ofParts parts = .ok a := by
  induction ways generalizing refusal with
  | nil => cases read
  | cons parts rest ih =>
    unfold firstOf at read
    split at read
    · exact ih read
    · exact ⟨parts, read⟩

theorem parts_of_parseLine {line : String} {a : Action} (read : parseLine line = .ok a) :
    ∃ parts, ofParts parts = .ok a := by
  unfold parseLine at read
  dsimp only at read
  split at read
  · exact parts_of_firstOf read
  · cases read

theorem parts_of_compile {config : String} {table : List Action} (read : compile config = .ok table) :
    ∀ a ∈ table, ∃ parts, ofParts parts = .ok a := by
  obtain ⟨actions, asked, rfl⟩ := compile_eq_ok.mp read
  intro a member
  obtain ⟨body, _, taken⟩ := exists_of_forall₂ asked (List.mem_mergeSort.mp member)
  exact parts_of_parseLine taken

theorem compiles_of_compile {config : String} {table : List Action} (read : compile config = .ok table) :
    ∀ a ∈ table, a.condition.Compiles := by
  intro a member
  obtain ⟨parts, taken⟩ := parts_of_compile read a member
  exact Condition.compiles_of_parse (readFrom_of_ofParts taken).condition

theorem interval_positive_of_compile {config : String} {table : List Action}
    (read : compile config = .ok table) : ∀ a ∈ table, ∀ interval ∈ a.interval?, 0 < interval := by
  intro a member interval repeats
  obtain ⟨parts, taken⟩ := parts_of_compile read a member
  have ofKind := (readFrom_of_ofParts taken).kind
  cases kind : a.kind with
  | repeating every command =>
    simp only [interval?, kind, Option.mem_some_iff] at repeats
    exact repeats ▸ Kind.interval_positive (kind ▸ ofKind)
  | _ => simp [interval?, kind] at repeats

end Action

/-- An expression that, if it compiles, can be searched for in every text. -/
def Regex.Searchable (regex : String) : Prop :=
  ∀ compiled, Regex.compile regex = .ok compiled → ∀ text, ∃ found, compiled.search text = .ok found

namespace Snapshot

theorem textMatches_eq_error {regex : String} (searchable : Regex.Searchable regex)
    {reply : Reply (Option String)} {e : Regex.Error} :
    textMatches regex reply = .error e ↔
      (∃ text, reply = .answered (some text)) ∧ Regex.compile regex = .error e := by
  rcases reply with ⟨_ | text⟩ | _
  · simp [textMatches]
  · cases compiled : Regex.compile regex with
    | error other => simp [textMatches, compiled, Bind.bind, Except.bind]
    | ok c =>
      obtain ⟨found, searched⟩ := searchable c compiled text
      simp [textMatches, compiled, searched, Bind.bind, Except.bind]
  · simp [textMatches]

/-- Whether the command of the foreground window is known, or would be if one asked for it. -/
def KnowsCommand (host : Host) (time : Rat) (s : Snapshot) : Prop :=
  ∃ text, (s.askForeground host time).1 = .answered (some text)

theorem evaluate_eq_error {android : String} {c : Condition} (compiles : c.Compiles)
    (searchable : ∀ regex, regex = android ∨ c.regex? = some regex → Regex.Searchable regex)
    {host : Host} {time : Rat} {s : Snapshot} {e : Regex.Error} :
    (s.evaluate host android time c).1 = .error e ↔
      (c = .android ∧ s.KnowsCommand host time) ∧ Regex.compile android = .error e := by
  have never : ∀ regex, c.regex? = some regex → ∀ reply, textMatches regex reply ≠ .error e := by
    intro regex brings reply failed
    obtain ⟨compiled, valid⟩ := compiles regex brings
    have invalid := ((textMatches_eq_error (searchable regex (.inr brings))).mp failed).2
    rw [valid] at invalid
    cases invalid
  cases c with
  | android => simp [evaluate, textMatches_eq_error (searchable android (.inl rfl)), KnowsCommand]
  | app regex => simp [evaluate, never regex rfl]
  | title regex => simp [evaluate, never regex rfl]
  | home =>
    simp only [evaluate]
    split <;> simp
  | _ => simp [evaluate]

end Snapshot

namespace Recognizer

/-- The actions whose conditions a search evaluates, each with what is known of the host by then. -/
def tried (r : Recognizer) (time : Rat) (tokens : List Token) (s : Snapshot) :
    List Action → List (Action × Snapshot)
  | [] => []
  | a :: rest =>
    if matchesAnywhere a.pattern tokens then
      (a, s) ::
        match s.evaluate r.host r.android time a.condition with
        | (.ok false, s) => r.tried time tokens s rest
        | _ => []
    else r.tried time tokens s rest

/-- Whether a table and the expression for the Android layer can be used: the expressions in the table
    compile, and searching for an expression that compiles never fails. -/
structure Usable (android : String) (table : List Action) : Prop where
  compiles : ∀ a ∈ table, a.condition.Compiles
  android : Regex.Searchable android
  searchable : ∀ a ∈ table, ∀ regex, a.condition.regex? = some regex → Regex.Searchable regex

/-- Whether a search asks if a known command belongs to the Android layer. -/
def AsksForLayer (r : Recognizer) (time : Rat) (tokens : List Token) (s : Snapshot)
    (table : List Action) : Prop :=
  ∃ x ∈ r.tried time tokens s table, x.1.condition = .android ∧ x.2.KnowsCommand r.host time

theorem candidate_eq_error {r : Recognizer} {table : List Action} (usable : Usable r.android table)
    {time : Rat} {tokens : List Token} {s : Snapshot} {e : Regex.Error} :
    (r.candidate time tokens s table).1 = .error e ↔
      r.AsksForLayer time tokens s table ∧ Regex.compile r.android = .error e := by
  induction table generalizing s with
  | nil => simp [candidate, AsksForLayer, tried]
  | cons a rest ih =>
    obtain ⟨compiles, android, searchable⟩ := usable
    obtain ⟨compilesFirst, compiles⟩ := List.forall_mem_cons.mp compiles
    obtain ⟨searchableFirst, searchable⟩ := List.forall_mem_cons.mp searchable
    have ih := fun s => ih ⟨compiles, android, searchable⟩ (s := s)
    have first : (s.evaluate r.host r.android time a.condition).1 = .error e ↔ _ :=
      Snapshot.evaluate_eq_error compilesFirst fun regex used =>
        used.elim (fun same => same ▸ android) (searchableFirst regex)
    simp only [AsksForLayer] at ih ⊢
    by_cases occurs : matchesAnywhere a.pattern tokens = true
    · simp only [candidate, tried, if_pos occurs, List.mem_cons, exists_eq_or_imp]
      cases evaluated : s.evaluate r.host r.android time a.condition with
      | mk result later =>
        rw [evaluated] at first
        rw [or_and_right, ← first]
        rcases result with other | _ | _
        · simp
        · simpa using ih later
        · simp
    · simpa only [candidate, tried, if_neg occurs] using ih s

end Recognizer

end Gesture
