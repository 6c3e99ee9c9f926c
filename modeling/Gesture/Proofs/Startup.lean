import Gesture.CommandLine
import Gesture.Proofs.Compiled
import Gesture.Proofs.Written

namespace Gesture

/-- The limit that an expression is beyond, if that is why it does not compile. -/
def Regex.Error.limit? : Regex.Error → Option Limit
  | .invalid _ _ => none
  | .countTooLarge => some .countTooLarge
  | .digitLimit digits => some (.digits digits)
  | .conflictingFlags => some .conflictingFlags
  | .distantLookbehind | .crossedGroup => some .distantLookbehind

namespace Condition

theorem withRegex_eq_beyond {text : String} {make : String → Condition} {regex : List Char} {limit : Limit} :
    withRegex text make regex = .error (.beyond limit) ↔
      ∃ e, Regex.compile (String.ofList regex) = .error e ∧ e.limit? = some limit := by
  unfold withRegex
  dsimp only
  cases compiled : Regex.compile (String.ofList regex) with
  | ok c => simp
  | error e => cases e <;> simp [Regex.Error.limit?]

theorem parse_eq_beyond {text : String} {limit : Limit} :
    parse text = .error (.beyond limit) ↔
      ∃ regex, expression? text = some regex ∧
        ∃ e, Regex.compile regex = .error e ∧ e.limit? = some limit := by
  unfold parse expression?
  dsimp only
  cases ofWord? (String.ofList (Text.lower (Text.strip text.toList))) with
  | some c => simp
  | none =>
    cases argument? "app" (Text.strip text.toList) with
    | some regex => simp [withRegex_eq_beyond]
    | none => cases argument? "window" (Text.strip text.toList) <;> simp [withRegex_eq_beyond]

end Condition

namespace Kind

def digits? (text : String) : Option (List Char) :=
  match between? "cmd(".toList text.toList with
  | some _ => none
  | none => ((between? "repeat(".toList text.toList).bind intervalAndCommand?).map (·.1)

theorem parseRepeating_eq_beyond {text : String} {digits command : List Char} {limit : Limit} :
    parseRepeating text digits command = .error (.beyond limit) ↔
      Text.digitLimit < digits.length ∧ limit = .digits digits.length := by
  unfold parseRepeating
  split
  · rename_i long
    simp [long, eq_comm]
  · rename_i short
    dsimp only
    split
    · simp [short]
    · split <;> simp [short]

theorem parse_eq_beyond {text : String} {limit : Limit} :
    parse text = .error (.beyond limit) ↔
      ∃ digits, digits? text = some digits ∧ Text.digitLimit < digits.length ∧
        limit = .digits digits.length := by
  unfold parse digits?
  cases between? "cmd(".toList text.toList with
  | some inside =>
    dsimp only
    split <;> simp
  | none =>
    cases (between? "repeat(".toList text.toList).bind intervalAndCommand? with
    | some parts => simp [parseRepeating_eq_beyond]
    | none => cases Builtin.ofWord? text <;> simp

end Kind

namespace Action

/-- Texts of an action of which one is beyond reading: the interval has too many digits, or the rest is
    well and the expression of the condition is beyond a limit. -/
inductive Parts.Beyond (parts : Parts) : Limit → Prop
  | interval {digits : List Char} (writes : Kind.digits? parts.action = some digits)
      (long : Text.digitLimit < digits.length) : Beyond parts (.digits digits.length)
  | expression {kind : Kind} {pattern : List Token} {regex : String} {e : Regex.Error} {limit : Limit}
      (ofKind : Kind.parse parts.action = .ok kind) (ofPattern : Grammar.parse parts.pattern = .ok pattern)
      (some : pattern ≠ []) (writes : Condition.expression? parts.condition = .some regex)
      (fails : Regex.compile regex = .error e) (beyond : e.limit? = .some limit) : Beyond parts limit

theorem ofParts_eq_beyond {parts : Parts} {limit : Limit} :
    ofParts parts = .error (.beyond limit) ↔ parts.Beyond limit := by
  rw [ofParts_eq]
  constructor
  · intro beyond
    split at beyond
    · rename_i ofKind
      cases beyond
      obtain ⟨digits, writes, long, rfl⟩ := Kind.parse_eq_beyond.mp ofKind
      exact .interval writes long
    · cases beyond
    · cases beyond
    · rename_i ofKind ofPattern
      obtain ⟨regex, writes, e, fails, same⟩ := Condition.parse_eq_beyond.mp (map_eq_error.mp beyond)
      exact .expression ofKind ofPattern (List.cons_ne_nil _ _) writes fails same
  · rintro (⟨writes, long⟩ | ⟨ofKind, ofPattern, some, writes, fails, same⟩)
    · rw [Kind.parse_eq_beyond.mpr ⟨_, writes, long, rfl⟩]
    · obtain ⟨t, tokens, rfl⟩ := List.exists_cons_of_ne_nil some
      rw [ofKind, ofPattern]
      exact map_eq_error.mpr (Condition.parse_eq_beyond.mpr ⟨_, writes, _, fails, same⟩)

/-- A line whose first split that is not refused is beyond reading. -/
def LineBeyond (limit : Limit) (line : String) : Prop :=
  "action=".toList <+: line.toList ∧
    Reaches (fun parts => ∃ r, ofParts parts = .error (.refused r)) (·.Beyond limit)
      (splits (line.toList.drop "action=".toList.length))

theorem firstOf_eq_beyond {refusal : Refusal} {ways : List Parts} {limit : Limit} :
    firstOf refusal ways = .error (.beyond limit) ↔
      Reaches (fun parts => ∃ r, ofParts parts = .error (.refused r)) (·.Beyond limit) ways := by
  induction ways generalizing refusal with
  | nil => simp [firstOf, reaches_nil]
  | cons parts rest ih =>
    rw [reaches_cons, ← ofParts_eq_beyond]
    unfold firstOf
    cases read : ofParts parts with
    | error e => cases e <;> simp [ih]
    | ok a => simp

theorem parseLine_eq_beyond {line : String} {limit : Limit} :
    parseLine line = .error (.beyond limit) ↔ LineBeyond limit line := by
  unfold parseLine LineBeyond
  dsimp only
  split
  · rename_i begins
    rw [firstOf_eq_beyond, and_iff_right (List.isPrefixOf_iff_prefix.mp begins)]
  · rename_i other
    exact ⟨nofun, fun begins => absurd (List.isPrefixOf_iff_prefix.mpr begins.1) other⟩

def TextBeyond (limit : Limit) (text : String) : Prop :=
  Reaches (fun line => ∃ a, parseLine line = .ok a) (LineBeyond limit)
    ((Text.lines text.toList).filterMap body?)

theorem compile_eq_beyond {text : String} {limit : Limit} :
    compile text = .error (.beyond limit) ↔ TextBeyond limit text := by
  rw [compile, map_eq_error, parseLines_eq_beyond]
  simp only [parseLine_eq_beyond]
  rfl

end Action

section

variable {α : Type} {pass stop : α → Bool}

theorem isOk_iff {ε : Type} {x : Except ε α} : x.isOk = true ↔ ∃ a, x = .ok a := by
  cases x <;> simp [Except.isOk, Except.toBool]

theorem reaches_eq_true {l : List α} :
    reaches pass stop l = true ↔ Reaches (pass · = true) (stop · = true) l := by
  induction l with
  | nil => simp [reaches, reaches_nil]
  | cons x l ih => rw [reaches_cons, ← ih, reaches, Bool.or_eq_true, Bool.and_eq_true]

end

namespace Action

variable {stack : Stack}

/-- Texts of an action of which one nests too deep to be read: the pattern, or, if that is well, the
    expression of the condition. -/
inductive Parts.Overruns (stack : Stack) (parts : Parts) : Prop
  | pattern {kind : Kind} (ofKind : Kind.parse parts.action = .ok kind)
      (deep : stack.pattern parts.pattern < Grammar.depth parts.pattern) : Overruns stack parts
  | expression {kind : Kind} {pattern : List Token} {regex : String} (ofKind : Kind.parse parts.action = .ok kind)
      (ofPattern : Grammar.parse parts.pattern = .ok pattern) (some : pattern ≠ [])
      (writes : Condition.expression? parts.condition = .some regex)
      (deep : stack.regex regex < Regex.depth regex) : Overruns stack parts

theorem isRefused_iff {parts : Parts} : parts.isRefused = true ↔ ∃ r, ofParts parts = .error (.refused r) := by
  unfold Parts.isRefused
  split
  · rename_i r refused
    exact iff_of_true rfl ⟨r, refused⟩
  · rename_i other
    exact iff_of_false nofun fun ⟨r, refused⟩ => other r refused

theorem hasPattern_iff {parts : Parts} :
    parts.hasPattern = true ↔ ∃ pattern, Grammar.parse parts.pattern = .ok pattern ∧ pattern ≠ [] := by
  unfold Parts.hasPattern
  split
  · rename_i t tokens read
    exact iff_of_true rfl ⟨_, read, List.cons_ne_nil t tokens⟩
  · rename_i other
    refine iff_of_false nofun ?_
    rintro ⟨_ | ⟨t, tokens⟩, read, some⟩
    · exact some rfl
    · exact other t tokens read

theorem overruns_iff {parts : Parts} : parts.overruns stack = true ↔ parts.Overruns stack := by
  simp only [Parts.overruns, Bool.and_eq_true, Bool.or_eq_true, decide_eq_true_eq, isOk_iff, hasPattern_iff,
    Option.any_eq_true_iff_get]
  constructor
  · rintro ⟨⟨kind, ofKind⟩, deep | ⟨⟨pattern, ofPattern, some⟩, found, deep⟩⟩
    · exact .pattern ofKind deep
    · exact .expression ofKind ofPattern some (Option.some_get found).symm deep
  · rintro (⟨ofKind, deep⟩ | ⟨ofKind, ofPattern, some, writes, deep⟩)
    · exact ⟨⟨_, ofKind⟩, .inl deep⟩
    · exact ⟨⟨_, ofKind⟩, .inr ⟨⟨_, ofPattern, some⟩, by simp [writes], by simpa [writes]⟩⟩

def LineOverruns (stack : Stack) (line : String) : Prop :=
  "action=".toList <+: line.toList ∧
    Reaches (fun parts => ∃ r, ofParts parts = .error (.refused r)) (·.Overruns stack)
      (splits (line.toList.drop "action=".toList.length))

theorem lineOverruns_iff {line : String} : lineOverruns stack line = true ↔ LineOverruns stack line := by
  simp only [lineOverruns, LineOverruns, Bool.and_eq_true, List.isPrefixOf_iff_prefix, reaches_eq_true, isRefused_iff,
    overruns_iff]

def TextOverruns (stack : Stack) (text : String) : Prop :=
  Reaches (fun line => ∃ a, parseLine line = .ok a) (LineOverruns stack)
    ((Text.lines text.toList).filterMap body?)

theorem textOverruns_iff {text : String} : overruns stack text = true ↔ TextOverruns stack text := by
  simp only [overruns, TextOverruns, reaches_eq_true, isOk_iff, lineOverruns_iff]

end Action

section

variable {reader : FileReader} {path : Path}

theorem readTextFile_of_fault {e : TextFileError} (found : path.fault? = some e) :
    readTextFile reader path = .error e := by
  rw [readTextFile, found]

theorem readTextFile_eq_error {e : TextFileError} (failed : readTextFile reader path = .error e) :
    path.fault? = some e ∨ (∃ fault, e = .file fault) ∨
      path.fault? = none ∧ ∃ bytes fault, reader path = .ok bytes ∧ Text.Utf8.decode bytes = .error fault ∧
        e = .encoding fault := by
  unfold readTextFile at failed
  split at failed
  · rename_i found
    cases failed
    exact .inl found
  · rename_i noFault
    split at failed
    · cases failed
      exact .inr (.inl ⟨_, rfl⟩)
    · rename_i bytes found
      cases decoded : Text.Utf8.decode bytes with
      | ok text =>
        rw [decoded] at failed
        cases failed
      | error fault =>
        rw [decoded] at failed
        cases failed
        exact .inr (.inr ⟨noFault, bytes, fault, found, decoded, rfl⟩)

theorem readTextFile_of_encoding {bytes : List UInt8} {fault : Text.Utf8.DecodeError}
    (noFault : path.fault? = none) (found : reader path = .ok bytes) (fails : Text.Utf8.decode bytes = .error fault) :
    readTextFile reader path = .error (.encoding fault) := by
  rw [readTextFile, noFault]
  dsimp only
  rw [found]
  dsimp only
  rw [fails]
  rfl

end

namespace CommandLine

def NoObject (stack : Stack) (reader : FileReader) (path : Path) : Prop :=
  ∃ text json, readTextFile reader path = .ok text ∧ Json.parse (stack.json text) text = .ok json ∧
    ∀ members, json ≠ .object members

/-- Settings with a fault that is not reported: they are no object, or nest too deep. -/
inductive SettingsUnreported (stack : Stack) (reader : FileReader) (path : Path) : Failure → Prop
  | noObject (noObject : NoObject stack reader path) : SettingsUnreported stack reader path .settingsNotAnObject
  | deep {text : List Char} (read : readTextFile reader path = .ok text)
      (deep : Json.parse (stack.json text) text = .error .tooDeep) :
      SettingsUnreported stack reader path .settingsTooDeep

/-- A table with a fault that is not reported: its path has a half of a pair that stands for no byte, or a null
    character, its bytes are not UTF-8, or its text nests too deep or is beyond reading. -/
inductive TableUnreported (stack : Stack) (reader : FileReader) (path : Path) : Failure → Prop
  | stray {s : CodeText.Stray} (stray : path.text.stray? = some s) :
      TableUnreported stack reader path (.table (.stray s))
  | null (noStray : path.text.stray? = none) (null : .char '\x00' ∈ path.text) :
      TableUnreported stack reader path (.table .nullCharacter)
  | encoding {bytes : List UInt8} {e : Text.Utf8.DecodeError} (noStray : path.text.stray? = none)
      (noNull : .char '\x00' ∉ path.text) (read : reader path = .ok bytes)
      (fails : Text.Utf8.decode bytes = .error e) : TableUnreported stack reader path (.table (.encoding e))
  | deep {text : List Char} (read : readTextFile reader path = .ok text)
      (deep : Action.TextOverruns stack (String.ofList text)) : TableUnreported stack reader path .tableTooDeep
  | beyond {text : List Char} {limit : Limit} (read : readTextFile reader path = .ok text)
      (shallow : ¬Action.TextOverruns stack (String.ofList text))
      (beyond : Action.TextBeyond limit (String.ofList text)) :
      TableUnreported stack reader path (.tableLimit limit)

/-- Settings or a table with a fault that is not reported, or a table with a pattern whose short form nests too
    deep to be written. -/
inductive Unreported (stack : Stack) (reader : FileReader) (settings : Path) : Failure → Prop
  | settings {f : Failure} (unreported : SettingsUnreported stack reader settings f) :
      Unreported stack reader settings f
  | table {s : Settings} {f : Failure} (loaded : loadSettings stack reader settings = .ok s)
      (unreported : TableUnreported stack reader (s.resolve s.actionsPath) f) : Unreported stack reader settings f
  | line {s : Settings} {table : List Action} {logged : LogLine} {a : Action}
      (ofSettings : loadSettings stack reader settings = .ok s) (ofTable : loadTable stack reader s = .ok (table, logged))
      (member : a ∈ table) (deep : stack.shortForm a.pattern < (Outline.ofTokens a.pattern).depth) :
      Unreported stack reader settings .lineTooDeep

section

variable {stack : Stack} {reader : FileReader} {settings : Path} {f : Failure}

theorem ofText_eq_error {path : Path} {text : List Char} {e : Settings.LoadError} (noFields : ∀ errors, e ≠ .fields errors) :
    Settings.ofText stack path text = .error e ↔
      (∃ fault, Json.parse (stack.json text) text = .error fault ∧ e = .json fault) ∨
        ∃ json, Json.parse (stack.json text) text = .ok json ∧ (∀ members, json ≠ .object members) ∧
          e = .notAnObject := by
  unfold Settings.ofText
  cases Json.parse (stack.json text) text with
  | error fault => simp [eq_comm]
  | ok json =>
    cases json with
    | object members =>
      dsimp only
      cases Settings.ofMembers stack (Json.setMember "_path" (.str path.text) members) with
      | error errors => simp [Except.mapError, (noFields errors).symm]
      | ok s => simp [Except.mapError]
    | _ => simp [eq_comm]

theorem load_of_read {text : List Char} (read : readTextFile reader settings = .ok text) :
    Settings.load stack reader settings = Settings.ofText stack settings text := by
  rw [Settings.load, read]

theorem load_eq_error {e : Settings.LoadError} (failed : Settings.load stack reader settings = .error e)
    (noFile : ∀ fault, e ≠ .file fault) :
    ∃ text, readTextFile reader settings = .ok text ∧ Settings.ofText stack settings text = .error e := by
  unfold Settings.load at failed
  split at failed
  · cases failed
    exact absurd rfl (noFile _)
  · rename_i text read
    exact ⟨text, read, failed⟩

theorem loadSettings_eq_unreported :
    loadSettings stack reader settings = .error (.inr f) ↔ SettingsUnreported stack reader settings f := by
  rw [loadSettings]
  constructor
  · intro failed
    split at failed
    · cases failed
    · rename_i none
      cases failed
      obtain ⟨text, read, same⟩ := load_eq_error none nofun
      obtain ⟨_, _, ⟨⟩⟩ | ⟨json, parsed, other, _⟩ := (ofText_eq_error (by nofun)).mp same
      exact .noObject ⟨text, json, read, parsed, other⟩
    · rename_i deep
      cases failed
      obtain ⟨text, read, same⟩ := load_eq_error deep nofun
      obtain ⟨_, deep, ⟨⟩⟩ | ⟨_, _, _, ⟨⟩⟩ := (ofText_eq_error (by nofun)).mp same
      exact .deep read deep
    · cases failed
  · rintro (⟨text, json, read, parsed, other⟩ | ⟨read, deep⟩)
    · rw [load_of_read read, (ofText_eq_error (by nofun)).mpr (.inr ⟨json, parsed, other, rfl⟩)]
    · rw [load_of_read read, (ofText_eq_error (by nofun)).mpr (.inl ⟨_, deep, rfl⟩)]

theorem loadTable_eq_unreported {s : Settings} :
    loadTable stack reader s = .error (.inr f) ↔ TableUnreported stack reader (s.resolve s.actionsPath) f := by
  rw [loadTable]
  constructor
  · intro failed
    split at failed
    · cases failed
    · rename_i e noFile read
      cases failed
      rcases readTextFile_eq_error read with fault | ⟨_, rfl⟩ | ⟨noFault, bytes, d, found, fails, rfl⟩
      · rcases Path.fault?_eq_some.mp fault with ⟨s, stray, rfl⟩ | ⟨noStray, null, rfl⟩
        · exact .stray stray
        · exact .null noStray null
      · exact absurd rfl (noFile _)
      · obtain ⟨noStray, noNull⟩ := Path.fault?_eq_none.mp noFault
        exact .encoding noStray noNull found fails
    · rename_i text read
      split at failed
      · rename_i deep
        cases failed
        exact .deep read (Action.textOverruns_iff.mp deep)
      · rename_i shallow
        split at failed
        · cases failed
        · cases failed
        · rename_i limit beyond
          cases failed
          exact .beyond read (mt Action.textOverruns_iff.mpr shallow) (Action.compile_eq_beyond.mp beyond)
  · rintro (stray | ⟨noStray, null⟩ | ⟨noStray, noNull, found, fails⟩ | ⟨read, deep⟩ | ⟨read, shallow, beyond⟩)
    · rw [readTextFile_of_fault (Path.fault?_eq_some.mpr (.inl ⟨_, stray, rfl⟩))]
    · rw [readTextFile_of_fault (Path.fault?_eq_some.mpr (.inr ⟨noStray, null, rfl⟩))]
    · rw [readTextFile_of_encoding (Path.fault?_eq_none.mpr ⟨noStray, noNull⟩) found fails]
    · rw [read]
      exact if_pos (Action.textOverruns_iff.mpr deep)
    · rw [read]
      dsimp only
      rw [if_neg (mt Action.textOverruns_iff.mp shallow), Action.compile_eq_beyond.mpr beyond]

theorem overrunsShortForm_iff {tokens : List Token} :
    stack.overrunsShortForm tokens = true ↔ stack.shortForm tokens < (Outline.ofTokens tokens).depth := by
  rw [Stack.overrunsShortForm, decide_eq_true_eq]

theorem printed_eq_error {table : List Action} {fault : Fault} :
    printed stack table = .error fault ↔
      fault = .inr .lineTooDeep ∧ ∃ a ∈ table, stack.shortForm a.pattern < (Outline.ofTokens a.pattern).depth := by
  unfold printed
  split
  · rename_i deep
    simp only [List.any_eq_true, overrunsShortForm_iff] at deep
    simp [deep, eq_comm]
  · rename_i shallow
    simp only [List.any_eq_true, overrunsShortForm_iff] at shallow
    simp [shallow]

theorem printed_eq_ok {table : List Action} {output : String} (ok : printed stack table = .ok output) :
    output = String.join (table.map fun a => a.line ++ "\n") := by
  unfold printed at ok
  split at ok
  · cases ok
  · cases ok
    rfl

theorem reported_eq_error {program : Program} {result : Except Fault Report} :
    reported program result = .error f ↔ result = .error (.inr f) := by
  unfold reported
  split <;> simp

theorem reported_eq_ok {program : Program} {result : Except Fault Report} {report : Report}
    (ok : reported program result = .ok report) :
    result = .ok report ∨ ∃ message, result = .error (.inl message) ∧
      report = { code := 1, errors := program.name ++ ": " ++ message ++ "\n" } := by
  unfold reported at ok
  split at ok
  · cases ok
    exact .inl rfl
  · cases ok
    exact .inr ⟨_, rfl, rfl⟩
  · cases ok

theorem check_eq_unreported : check stack reader settings = .error f ↔ Unreported stack reader settings f := by
  unfold check
  rw [reported_eq_error, bind_eq_error, loadSettings_eq_unreported]
  simp only [bind_eq_error, loadTable_eq_unreported, printed_eq_error]
  constructor
  · rintro (unreported | ⟨s, loaded, unreported | ⟨⟨table, logged⟩, ofTable, ⟨same, a, member, deep⟩ | ⟨_, _, done⟩⟩⟩)
    · exact .settings unreported
    · exact .table loaded unreported
    · cases same
      exact .line loaded ofTable member deep
    · cases done
  · rintro (unreported | ⟨loaded, unreported⟩ | ⟨loaded, ofTable, member, deep⟩)
    · exact .inl unreported
    · exact .inr ⟨_, loaded, .inl unreported⟩
    · exact .inr ⟨_, loaded, .inr ⟨_, ofTable, .inl ⟨rfl, _, member, deep⟩⟩⟩

end

/-- Loading settings, loading a table and checking end without a report for the faults named here and for
    no others. In all other cases a check either prints the table that it loaded and ends with code 0, or
    ends with code 1 and the message of what could not be loaded. -/
theorem check_reports (stack : Stack) (reader : FileReader) (settings : Path) :
    (∀ f, loadSettings stack reader settings = .error (.inr f) ↔ SettingsUnreported stack reader settings f) ∧
    (∀ s f, loadTable stack reader s = .error (.inr f) ↔
      TableUnreported stack reader (s.resolve s.actionsPath) f) ∧
    (∀ f, check stack reader settings = .error f ↔ Unreported stack reader settings f) ∧
    ∀ report, check stack reader settings = .ok report →
      (∃ s table line, loadSettings stack reader settings = .ok s ∧ loadTable stack reader s = .ok (table, line) ∧
        report = { output := String.join (table.map fun a => a.line ++ "\n"), logs := [line] }) ∨
      ∃ message, (loadSettings stack reader settings = .error (.inl message) ∨
          ∃ s, loadSettings stack reader settings = .ok s ∧ loadTable stack reader s = .error (.inl message)) ∧
        report = { code := 1, errors := "buttonactions-check: " ++ message ++ "\n" } := by
  refine ⟨fun f => loadSettings_eq_unreported, fun s f => loadTable_eq_unreported,
    fun f => check_eq_unreported, fun report checked => ?_⟩
  rcases reported_eq_ok checked with done | ⟨message, failed, rfl⟩
  · obtain ⟨s, ofSettings, done⟩ := bind_eq_ok done
    obtain ⟨⟨table, line⟩, ofTable, done⟩ := bind_eq_ok done
    obtain ⟨output, ofLines, done⟩ := bind_eq_ok done
    cases done
    exact .inl ⟨s, table, line, ofSettings, ofTable, by rw [printed_eq_ok ofLines]⟩
  · refine .inr ⟨message, ?_, rfl⟩
    rcases bind_eq_error.mp failed with failed | ⟨s, ofSettings, failed⟩
    · exact .inl failed
    · refine .inr ⟨s, ofSettings, ?_⟩
      rcases bind_eq_error.mp failed with failed | ⟨_, _, failed⟩
      · exact failed
      -- What is printed fails only without a report.
      · rcases bind_eq_error.mp failed with failed | ⟨_, _, failed⟩
        · cases (printed_eq_error.mp failed).1
        · cases failed

theorem check_reports_emptyList :
    let files : FileReader := fun _ => .ok (Text.Utf8.encode "[]".toList)
    let settings := Path.ofText "s.json"
    check (.ofFrames 980) files settings = .error .settingsNotAnObject ∧
      loadSettings (.ofFrames 980) files settings = .error (.inr .settingsNotAnObject) ∧
      NoObject (.ofFrames 980) files settings := by
  have fails : loadSettings (.ofFrames 980) (fun _ => .ok (Text.Utf8.encode "[]".toList)) (Path.ofText "s.json") =
      .error (.inr .settingsNotAnObject) := by decide +kernel
  obtain ⟨ofSettings, _, ofCheck, _⟩ :=
    check_reports (.ofFrames 980) (fun _ => .ok (Text.Utf8.encode "[]".toList)) (Path.ofText "s.json")
  obtain ⟨noObject⟩ := (ofSettings _).mp fails
  exact ⟨(ofCheck _).mpr (.settings (.noObject noObject)), fails, noObject⟩

/-- Settings that are nothing but opening brackets, more than there is room for, are not reported. -/
theorem check_brackets {stack : Stack} {reader : FileReader} {settings : Path} {count : Nat}
    (read : readTextFile reader settings = .ok (List.replicate count '['))
    (deep : stack.json (List.replicate count '[') < count) :
    check stack reader settings = .error .settingsTooDeep := by
  have fails := Json.parse_brackets deep []
  rw [List.append_nil] at fails
  exact check_eq_unreported.mpr (.settings (.deep read fails))

def strayFiles : FileReader := fun path =>
  if path.text = CodeText.ofString "s.json" then .ok (Text.Utf8.encode "\x7b\"actions_path\": \"a\"\x7d".toList)
  else if path.text = CodeText.ofString "a" then .ok [0xff]
  else .error .missing

theorem check_strayFiles :
    check (.ofFrames 980) strayFiles (Path.ofText "s.json") = .error (.table (.encoding ⟨0, [0xff], .start⟩)) := by
  decide +kernel

end CommandLine

end Gesture
