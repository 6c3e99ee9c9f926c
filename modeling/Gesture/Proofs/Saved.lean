import Gesture.Proofs.DurationText
import Gesture.Proofs.Splits
import Gesture.Proofs.Written
import Mathlib.Data.List.Forall2
import Mathlib.Data.List.Nodup

namespace Gesture

theorem mapError_eq_ok {ε ε' α : Type} {f : ε → ε'} {x : Except ε α} {a : α} :
    x.mapError f = .ok a ↔ x = .ok a := by
  cases x <;> simp [Except.mapError]

theorem mapM_eq_ok {ε α β : Type} {f : α → Except ε β} {l : List α} {results : List β} :
    l.mapM f = .ok results ↔ List.Forall₂ (fun a b => f a = .ok b) l results := by
  induction l generalizing results with
  | nil =>
    rw [List.mapM_nil, List.forall₂_nil_left_iff]
    exact ⟨fun same => (Except.ok.inj same).symm, fun same => congrArg Except.ok same.symm⟩
  | cons a l ih =>
    rw [List.mapM_cons, List.forall₂_cons_left_iff]
    constructor
    · intro done
      obtain ⟨b, first, done⟩ := bind_eq_ok done
      obtain ⟨rest, others, done⟩ := bind_eq_ok done
      cases done
      exact ⟨b, rest, first, ih.mp others, rfl⟩
    · rintro ⟨b, rest, first, others, rfl⟩
      rw [first, ih.mpr others]
      rfl

theorem exists_of_mapM {ε α β : Type} {f : α → Except ε β} {l : List α} {results : List β}
    (done : l.mapM f = .ok results) : ∀ b ∈ results, ∃ a ∈ l, f a = .ok b := by
  have each := mapM_eq_ok.mp done
  clear done
  induction each with
  | nil => exact nofun
  | @cons a b _ _ first _ ih =>
    rw [List.forall_mem_cons]
    refine ⟨⟨a, List.mem_cons_self .., first⟩, fun c member => ?_⟩
    obtain ⟨a, among, made⟩ := ih c member
    exact ⟨a, List.mem_cons_of_mem _ among, made⟩

theorem result_unique {ε α : Type} {x : Except ε α} {a b : α} (first : x = .ok a) (second : x = .ok b) : a = b :=
  Except.ok.inj (first.symm.trans second)

namespace Path

/-- Paths as they are read: no more than two slashes at the start, no parts that are dropped, and no half of a
    pair before its other half. -/
structure Normal (p : Path) : Prop where
  few : p.slashes ≤ 2
  kept : ∀ part ∈ p.parts, part ≠ [] ∧ part ≠ [.char '.'] ∧ .char '/' ∉ part
  apart : p.text.Apart

theorem normal_ofText {text : CodeText} (apart : text.Apart) : (ofText text).Normal := by
  refine ⟨?_, fun part member => ?_, apart_ofText apart⟩
  · unfold ofText
    dsimp only
    split <;> omega
  · obtain ⟨among, kept⟩ := List.mem_filter.mp member
    simp only [Bool.and_eq_true, Bool.not_eq_true', List.isEmpty_eq_false_iff, bne_iff_ne, ne_eq] at kept
    exact ⟨kept.1, kept.2, Text.separator_not_mem among⟩

theorem splitAt_slashes (count : Nat) (text : CodeText) :
    Text.splitAt (.char '/') (List.replicate count (.char '/') ++ text) =
      List.replicate count [] ++ Text.splitAt (.char '/') text := by
  induction count with
  | zero => rfl
  | succ count ih =>
    rw [List.replicate_succ, List.replicate_succ, List.cons_append, Text.splitAt, if_pos rfl, ih]
    rfl

section

variable {p : Path}

theorem Normal.filter_parts (normal : p.Normal) :
    (Text.splitAt (.char '/') ([CodePoint.char '/'].intercalate p.parts)).filter
      (fun part => !part.isEmpty && part != [.char '.']) = p.parts := by
  by_cases none : p.parts = []
  · rw [none]
    rfl
  · rw [Text.splitAt_eq_splitOn, List.splitOn_intercalate _ _ none, List.filter_eq_self]
    · intro part member
      obtain ⟨some, other, _⟩ := normal.kept part member
      simp [some, other]
    · exact fun part member => (normal.kept part member).2.2

theorem Normal.takeWhile_slashes (normal : p.Normal) :
    (List.replicate p.slashes (CodePoint.char '/') ++ [CodePoint.char '/'].intercalate p.parts).takeWhile (· == .char '/') =
      List.replicate p.slashes (.char '/') := by
  have behind : ([CodePoint.char '/'].intercalate p.parts).takeWhile (· == .char '/') = [] := by
    cases parts : p.parts with
    | nil => rfl
    | cons part rest =>
      obtain ⟨some, _, noSlash⟩ := normal.kept part (parts ▸ List.mem_cons_self ..)
      obtain ⟨c, more, rfl⟩ := List.exists_cons_of_ne_nil some
      have other : ¬(c == .char '/') = true := by
        rw [List.mem_cons, not_or] at noSlash
        simpa using Ne.symm noSlash.1
      cases rest with
      | nil => exact List.takeWhile_cons_of_neg other
      | cons next rest =>
        rw [List.intercalate_cons_cons]
        exact List.takeWhile_cons_of_neg other
  rw [List.takeWhile_append_of_pos (by simp), behind, List.append_nil]

theorem Normal.ofText_text (normal : p.Normal) : ofText p.text = p := by
  unfold text
  split
  · rename_i none
    cases p
    simp only at none
    rw [none.1, none.2]
    rfl
  · have few : ¬2 < p.slashes := Nat.not_lt.mpr normal.few
    have dropped : (List.replicate p.slashes []).filter (fun part : CodeText => !part.isEmpty && part != [.char '.']) =
        [] := by
      rw [List.filter_eq_nil_iff]
      intro part member
      simp [List.eq_of_mem_replicate member]
    unfold ofText
    dsimp only
    rw [normal.takeWhile_slashes, splitAt_slashes, List.filter_append, normal.filter_parts, List.length_replicate,
      if_neg few, dropped, List.nil_append]

end

end Path

theorem Builtin.find?_word (b : Builtin) :
    Builtin.all.find? (fun c => CodeText.ofString c.word = CodeText.ofString b.word) = some b := by
  cases b <;> decide

namespace Settings

section

variable {α : Type} {members : List (CodeText × Json)} {name : String} {read : Json → Except Fault α} {default a : α}

theorem field_eq_ok : field members name read default = (a, []) ↔
    (Json.member? name members = none ∧ a = default) ∨
      ∃ v, Json.member? name members = some v ∧ read v = .ok a := by
  unfold field
  cases Json.member? name members with
  | none => simp [eq_comm]
  | some v => cases done : read v <;> simp [done, eq_comm]

theorem required_eq_ok : required members name read default = (a, []) ↔
    ∃ v, Json.member? name members = some v ∧ read v = .ok a := by
  unfold required
  cases found : Json.member? name members with
  | none => simp
  | some v => simp [field_eq_ok, found]

end

structure Gives (stack : Stack) (members : List (CodeText × Json)) (s : Settings) : Prop where
  path : required members "_path" readPath (Path.ofText []) = (s.path, [])
  actionsPath : required members "actions_path" readPath (Path.ofText []) = (s.actionsPath, [])
  inputDevices : field members "input_devices" readPaths [] = (s.inputDevices, [])
  virtualButtonPipe :
    field members "virtual_button_fifo" (readOptional readPath) none = (s.virtualButtonPipe, [])
  grabDevices : field members "grab_devices" readTruth false = (s.grabDevices, [])
  patternMax :
    field members "pattern_max" readDuration defaultPatternMax = (s.patternMax, [])
  accidentalDouble :
    field members "accidental_double" readDuration defaultAccidentalDouble = (s.accidentalDouble, [])
  queryTimeout :
    field members "query_timeout" readDuration defaultQueryTimeout = (s.queryTimeout, [])
  lockedCommand :
    field members "screen_locked_command" (readOptional (readText stack)) none = (s.lockedCommand, [])
  foregroundCommand :
    field members "foreground_window_command" (readOptional (readText stack)) none = (s.foregroundCommand, [])
  titleCommand :
    field members "window_title_command" (readOptional (readText stack)) none = (s.titleCommand, [])
  androidPattern :
    field members "android_command_pattern" (readText stack) defaultAndroidPattern = (s.androidPattern, [])
  builtinCommands : field members "builtin_actions" (readCommands stack)
    (Builtin.all.map fun b => (b, CodeText.ofString (defaultCommand b))) = (s.builtinCommands, [])

theorem ofMembers_eq_ok {stack : Stack} {members : List (CodeText × Json)} {s : Settings} :
    ofMembers stack members = .ok s ↔ Gives stack members s := by
  unfold ofMembers
  dsimp only
  constructor
  · intro read
    split at read
    · rename_i none
      simp only [List.isEmpty_iff, List.append_eq_nil_iff] at none
      cases read
      obtain ⟨⟨⟨⟨⟨⟨⟨⟨⟨⟨⟨⟨e₁, e₂⟩, e₃⟩, e₄⟩, e₅⟩, e₆⟩, e₇⟩, e₈⟩, e₉⟩, e₁₀⟩, e₁₁⟩, e₁₂⟩, e₁₃⟩ := none
      exact ⟨Prod.ext rfl e₁, Prod.ext rfl e₂, Prod.ext rfl e₃, Prod.ext rfl e₄, Prod.ext rfl e₅, Prod.ext rfl e₆,
        Prod.ext rfl e₇, Prod.ext rfl e₈, Prod.ext rfl e₉, Prod.ext rfl e₁₀, Prod.ext rfl e₁₁, Prod.ext rfl e₁₂,
        Prod.ext rfl e₁₃⟩
    · cases read
  · intro gives
    simp only [gives.path, gives.actionsPath, gives.inputDevices, gives.virtualButtonPipe, gives.grabDevices,
      gives.patternMax, gives.accidentalDouble, gives.queryTimeout, gives.lockedCommand, gives.foregroundCommand,
      gives.titleCommand, gives.androidPattern, gives.builtinCommands]
    rfl

/-- Settings as they are loaded: their paths are as paths are read, no built-in action has two commands, and in
    no text is there a half of a pair before its other half. -/
structure Tidy (s : Settings) : Prop where
  actionsPath : s.actionsPath.Normal
  inputDevices : ∀ p ∈ s.inputDevices, p.Normal
  virtualButtonPipe : ∀ p ∈ s.virtualButtonPipe, p.Normal
  lockedCommand : ∀ t ∈ s.lockedCommand, t.Apart
  foregroundCommand : ∀ t ∈ s.foregroundCommand, t.Apart
  titleCommand : ∀ t ∈ s.titleCommand, t.Apart
  androidPattern : s.androidPattern.Apart
  builtins : (s.builtinCommands.map (·.1)).Nodup
  builtinCommands : ∀ c ∈ s.builtinCommands, c.2.Apart

section

variable {stack : Stack} {v : Json}

theorem apart_plain (sound : v.Sound) : v.plain.Apart := by
  cases sound with
  | str apart => exact apart
  | _ => exact CodeText.apart_chars _

theorem sound_of_itemsOf? {items : List Json} (sound : v.Sound) (found : itemsOf? v = some items) :
    ∀ w ∈ items, w.Sound := by
  unfold itemsOf? at found
  split at found
  · cases found
    cases sound with
    | array inner => exact inner
  · cases found
    intro w member
    obtain ⟨p, _, rfl⟩ := List.mem_map.mp member
    exact .str (CodeText.apart_singleton p)
  · cases found
    cases sound with
    | object _ apart _ =>
      intro w member
      obtain ⟨m, among, rfl⟩ := List.mem_map.mp member
      exact .str (apart m among)
  · cases found

theorem normal_of_readPath {p : Path} (sound : v.Sound) (read : readPath v = .ok p) : p.Normal := by
  unfold readPath at read
  split at read
  · cases read
    cases sound with
    | str apart => exact Path.normal_ofText apart
  · cases read

theorem normal_of_readPaths {paths : List Path} (sound : v.Sound) (read : readPaths v = .ok paths) :
    ∀ p ∈ paths, p.Normal := by
  unfold readPaths at read
  split at read
  · cases read
  · rename_i items found
    intro p member
    obtain ⟨w, among, read⟩ := exists_of_mapM (mapError_eq_ok.mp read) p member
    exact normal_of_readPath (sound_of_itemsOf? sound found w among) read

theorem of_readOptional {α : Type} {read : Json → Except Fault α} {P : α → Prop} {result : Option α}
    (each : ∀ a, read v = .ok a → P a) (done : readOptional read v = .ok result) : ∀ a ∈ result, P a := by
  unfold readOptional at done
  split at done
  · cases done
    exact nofun
  · obtain ⟨a, read, rfl⟩ := map_eq_ok done
    rintro _ ⟨⟩
    exact each a read

theorem apart_of_readText {t : CodeText} (sound : v.Sound) (read : readText stack v = .ok t) : t.Apart := by
  unfold readText at read
  split at read
  · cases read
  · cases read
    exact apart_plain sound

theorem readCommand_eq_ok {m : CodeText × Json} {c : Builtin × CodeText} (read : readCommand stack m = .ok c) :
    CodeText.ofString c.1.word = m.1 ∧ readText stack m.2 = .ok c.2 := by
  unfold readCommand at read
  split at read
  · rename_i b found
    obtain ⟨command, ofText, rfl⟩ := map_eq_ok read
    exact ⟨by simpa using List.find?_some found, ofText⟩
  · cases read

theorem words_of_readCommands {members : List (CodeText × Json)} {commands : List (Builtin × CodeText)}
    (each : List.Forall₂ (fun m c => readCommand stack m = .ok c) members commands) :
    (commands.map (·.1)).map (fun b => CodeText.ofString b.word) = members.map (·.1) := by
  induction each with
  | nil => rfl
  | cons first _ ih =>
    rw [List.map_cons, List.map_cons, List.map_cons, (readCommand_eq_ok first).1, ih]

theorem of_readCommands {commands : List (Builtin × CodeText)} (sound : v.Sound)
    (read : readCommands stack v = .ok commands) : (commands.map (·.1)).Nodup ∧ ∀ c ∈ commands, c.2.Apart := by
  unfold readCommands at read
  split at read
  · rename_i members
    have read := mapError_eq_ok.mp read
    have words := words_of_readCommands (mapM_eq_ok.mp read)
    cases sound with
    | object names _ inner =>
      refine ⟨List.Nodup.of_map _ (words ▸ names), fun c member => ?_⟩
      obtain ⟨m, among, made⟩ := exists_of_mapM read c member
      exact apart_of_readText (inner m among) (readCommand_eq_ok made).2
  · cases read

variable {members : List (CodeText × Json)} {name : String}

theorem sound_of_member? (sound : (Json.object members).Sound) (found : Json.member? name members = some v) :
    v.Sound := by
  obtain ⟨m, among, rfl⟩ := Option.map_eq_some_iff.mp found
  cases sound with
  | object _ _ inner => exact inner m (List.mem_of_find?_eq_some among)

/-- What all sound values are read as holds of a field too, if it holds of the default. -/
theorem of_field {α : Type} {read : Json → Except Fault α} {default a : α} {P : α → Prop}
    (sound : (Json.object members).Sound) (ofDefault : P default) (each : ∀ v a, v.Sound → read v = .ok a → P a)
    (given : field members name read default = (a, [])) : P a := by
  rcases field_eq_ok.mp given with ⟨_, rfl⟩ | ⟨v, found, read⟩
  · exact ofDefault
  · exact each v a (sound_of_member? sound found) read

theorem Gives.tidy {s : Settings} (sound : (Json.object members).Sound) (gives : Gives stack members s) : s.Tidy := by
  have optionalText (name : String) (result : Option CodeText)
      (given : field members name (readOptional (readText stack)) none = (result, [])) : ∀ t ∈ result, t.Apart :=
    of_field sound nofun (fun _ _ ofValue => of_readOptional fun _ => apart_of_readText ofValue) given
  have builtins := of_field (P := fun commands => (commands.map (·.1)).Nodup ∧ ∀ c ∈ commands, c.2.Apart) sound
    ⟨by decide, fun c member => ?_⟩ (fun _ _ => of_readCommands) gives.builtinCommands
  · constructor
    · obtain ⟨v, found, read⟩ := required_eq_ok.mp gives.actionsPath
      exact normal_of_readPath (sound_of_member? sound found) read
    · exact of_field sound nofun (fun _ _ => normal_of_readPaths) gives.inputDevices
    · exact of_field sound nofun (fun _ _ ofValue => of_readOptional fun _ => normal_of_readPath ofValue)
        gives.virtualButtonPipe
    · exact optionalText _ _ gives.lockedCommand
    · exact optionalText _ _ gives.foregroundCommand
    · exact optionalText _ _ gives.titleCommand
    · exact of_field sound (CodeText.apart_ofString _) (fun _ _ => apart_of_readText) gives.androidPattern
    · exact builtins.1
    · exact builtins.2
  · obtain ⟨b, _, rfl⟩ := List.mem_map.mp member
    exact CodeText.apart_ofString _

end

theorem load_eq_ok {stack : Stack} {reader : FileReader} {path : Path} {s : Settings} :
    load stack reader path = .ok s ↔ ∃ text members, readTextFile reader path = .ok text ∧
      Json.parse (stack.json text) text = .ok (.object members) ∧
      Gives stack (Json.setMember "_path" (.str path.text) members) s := by
  unfold load
  cases readTextFile reader path with
  | error e => simp
  | ok text =>
    dsimp only
    unfold ofText
    cases parsed : Json.parse (stack.json text) text with
    | error e => simp [parsed]
    | ok v =>
      cases v with
      | object members => simp [parsed, mapError_eq_ok, ofMembers_eq_ok]
      | _ => simp [parsed]

theorem tidy_of_load {stack : Stack} {reader : FileReader} {path : Path} {s : Settings}
    (loaded : load stack reader path = .ok s) : s.Tidy := by
  obtain ⟨text, members, read, parsed, gives⟩ := load_eq_ok.mp loaded
  have ofPath := CodeText.apart_of_stray? (stray?_of_readTextFile read)
  exact gives.tidy ((Json.sound_of_parse parsed).setMember (CodeText.apart_ofString _) (.str ofPath))

theorem word_injective : Function.Injective fun b : Builtin => CodeText.ofString b.word := by
  intro b c same
  have found := b.find?_word
  dsimp only at same
  rw [same, c.find?_word] at found
  exact (Option.some.inj found).symm

theorem plain_string {room : Nat} (text : String) : Json.Plain room (.string text) :=
  .str (CodeText.apart_ofString text)

theorem plain_optionalText {room : Nat} {text : Option CodeText} (apart : ∀ t ∈ text, t.Apart) :
    Json.Plain room (optionalText text) := by
  cases text with
  | none => exact .null
  | some text => exact .str (apart text rfl)

theorem plain_members {s : Settings} (tidy : s.Tidy) : Json.Plain 2 (.object s.members) := by
  have names : s.members.map (·.1) = (["actions_path", "input_devices", "virtual_button_fifo", "grab_devices",
      "pattern_max", "accidental_double", "query_timeout", "screen_locked_command", "foreground_window_command",
      "window_title_command", "android_command_pattern", "builtin_actions"].map CodeText.ofString) := rfl
  have devices : Json.Plain 1 (.array (s.inputDevices.map fun p => .str p.text)) := by
    refine .array fun v member => ?_
    obtain ⟨p, among, rfl⟩ := List.mem_map.mp member
    exact .str (tidy.inputDevices p among).apart
  have pipe : ∀ t ∈ s.virtualButtonPipe.map (·.text), t.Apart := by
    intro t member
    obtain ⟨p, among, rfl⟩ := Option.map_eq_some_iff.mp member
    exact (tidy.virtualButtonPipe p among).apart
  have commands : Json.Plain 1 (.object (s.builtinCommands.map fun c => (c.1.word, .str c.2))) := by
    refine .object ?_ (fun m member => ?_) fun m member => ?_
    · have words := tidy.builtins.map word_injective
      rwa [List.map_map] at words ⊢
    · obtain ⟨c, _, rfl⟩ := List.mem_map.mp member
      exact CodeText.apart_ofString _
    · obtain ⟨c, among, rfl⟩ := List.mem_map.mp member
      exact .str (tidy.builtinCommands c among)
  have named : ∀ m ∈ s.members, m.1.Apart := by
    intro m member
    have member := List.mem_map_of_mem (f := (·.1)) member
    rw [names] at member
    obtain ⟨name, _, same⟩ := List.mem_map.mp member
    exact same ▸ CodeText.apart_ofString name
  refine .object (by rw [names]; decide +kernel) named ?_
  simp only [members, List.forall_mem_cons]
  exact ⟨.str tidy.actionsPath.apart, devices, plain_optionalText pipe, .bool _, plain_string _, plain_string _,
    plain_string _, plain_optionalText tidy.lockedCommand, plain_optionalText tidy.foregroundCommand,
    plain_optionalText tidy.titleCommand, .str tidy.androidPattern, commands, nofun⟩

section

variable {stack : Stack} {s t : Settings} {path : CodeText}

theorem readPath_text {p : Path} (normal : p.Normal) : readPath (.str p.text) = .ok p :=
  congrArg Except.ok normal.ofText_text

theorem readPaths_texts {paths : List Path} (normal : ∀ p ∈ paths, p.Normal) :
    readPaths (.array (paths.map fun p => .str p.text)) = .ok paths := by
  refine mapError_eq_ok.mpr (mapM_eq_ok.mpr ?_)
  rw [List.forall₂_map_left_iff, List.forall₂_same]
  exact fun p member => readPath_text (normal p member)

theorem readOptional_path {pipe : Option Path} (normal : ∀ p ∈ pipe, p.Normal) :
    readOptional readPath (optionalText (pipe.map (·.text))) = .ok pipe := by
  cases pipe with
  | none => rfl
  | some p =>
    change (readPath (.str p.text)).map some = .ok (some p)
    rw [readPath_text (normal p rfl)]
    rfl

theorem readDuration_text {text : String} {d : Duration} :
    readDuration (.string text) = .ok d ↔ Duration.parse text = .ok d := by
  rw [Json.string, readDuration, CodeText.shown_ofString]
  exact mapError_eq_ok

theorem readText_str (t : CodeText) : readText stack (.str t) = .ok t :=
  if_neg (Nat.not_lt_zero _)

theorem readOptional_text (command : Option CodeText) :
    readOptional (readText stack) (optionalText command) = .ok command := by
  cases command with
  | none => rfl
  | some t =>
    change (readText stack (.str t)).map some = .ok (some t)
    rw [readText_str]
    rfl

theorem readCommands_words (commands : List (Builtin × CodeText)) :
    readCommands stack (.object (commands.map fun c => (c.1.word, .str c.2))) = .ok commands := by
  refine mapError_eq_ok.mpr (mapM_eq_ok.mpr ?_)
  rw [List.forall₂_map_left_iff, List.forall₂_same]
  intro c _
  unfold readCommand
  dsimp only
  rw [Builtin.find?_word]
  dsimp only
  rw [readText_str]
  rfl

theorem field_of {α : Type} {members : List (CodeText × Json)} {name : String} {v : Json}
    {read : Json → Except Fault α} {default a : α} (found : Json.member? name members = some v) :
    field members name read default = (a, []) ↔ read v = .ok a := by
  simp [field_eq_ok, found]

theorem required_of {α : Type} {members : List (CodeText × Json)} {name : String} {v : Json}
    {read : Json → Except Fault α} {default a : α} (found : Json.member? name members = some v) :
    required members name read default = (a, []) ↔ read v = .ok a := by
  simp [required_eq_ok, found]

theorem gives_saved (tidy : s.Tidy) :
    Gives stack (Json.setMember "_path" (.str path) s.members) t ↔
      ∃ patternMax accidentalDouble queryTimeout, Duration.parse s.patternMax.text = .ok patternMax ∧
        Duration.parse s.accidentalDouble.text = .ok accidentalDouble ∧
        Duration.parse s.queryTimeout.text = .ok queryTimeout ∧
        t = { s with
          path := Path.ofText path
          patternMax := patternMax
          accidentalDouble := accidentalDouble
          queryTimeout := queryTimeout } := by
  constructor
  · intro gives
    have path := (required_of rfl).mp gives.path
    have actionsPath := (required_of rfl).mp gives.actionsPath
    have inputDevices := (field_of rfl).mp gives.inputDevices
    have virtualButtonPipe := (field_of rfl).mp gives.virtualButtonPipe
    have grabDevices := (field_of rfl).mp gives.grabDevices
    have patternMax := (field_of rfl).mp gives.patternMax
    have accidentalDouble := (field_of rfl).mp gives.accidentalDouble
    have queryTimeout := (field_of rfl).mp gives.queryTimeout
    have lockedCommand := (field_of rfl).mp gives.lockedCommand
    have foregroundCommand := (field_of rfl).mp gives.foregroundCommand
    have titleCommand := (field_of rfl).mp gives.titleCommand
    have androidPattern := (field_of rfl).mp gives.androidPattern
    have builtinCommands := (field_of rfl).mp gives.builtinCommands
    refine ⟨_, _, _, readDuration_text.mp patternMax, readDuration_text.mp accidentalDouble,
      readDuration_text.mp queryTimeout, ?_⟩
    cases t
    simp only [mk.injEq, true_and]
    exact ⟨result_unique path rfl, result_unique actionsPath (readPath_text tidy.actionsPath),
      result_unique inputDevices (readPaths_texts tidy.inputDevices),
      result_unique virtualButtonPipe (readOptional_path tidy.virtualButtonPipe), result_unique grabDevices rfl,
      result_unique lockedCommand (readOptional_text _), result_unique foregroundCommand (readOptional_text _),
      result_unique titleCommand (readOptional_text _), result_unique androidPattern (readText_str _),
      result_unique builtinCommands (readCommands_words _)⟩
  · rintro ⟨patternMax, accidentalDouble, queryTimeout, first, second, third, rfl⟩
    constructor
    · exact (required_of rfl).mpr rfl
    · exact (required_of rfl).mpr (readPath_text tidy.actionsPath)
    · exact (field_of rfl).mpr (readPaths_texts tidy.inputDevices)
    · exact (field_of rfl).mpr (readOptional_path tidy.virtualButtonPipe)
    · exact (field_of rfl).mpr rfl
    · exact (field_of rfl).mpr (readDuration_text.mpr first)
    · exact (field_of rfl).mpr (readDuration_text.mpr second)
    · exact (field_of rfl).mpr (readDuration_text.mpr third)
    · exact (field_of rfl).mpr (readOptional_text _)
    · exact (field_of rfl).mpr (readOptional_text _)
    · exact (field_of rfl).mpr (readOptional_text _)
    · exact (field_of rfl).mpr (readText_str _)
    · exact (field_of rfl).mpr (readCommands_words _)

end

def durations (s : Settings) : List Duration :=
  [s.patternMax, s.accidentalDouble, s.queryTimeout]

section

variable {stack : Stack} {reader : FileReader} {path : Path} {s : Settings} {files written : Files} {dest : Option Path}

theorem load_eq_ok_of_save (loaded : load stack reader path = .ok s) (saved : s.save files dest = .ok written)
    (t : Settings) :
    load stack written.read (dest.getD s.path) = .ok t ↔
      ∃ patternMax accidentalDouble queryTimeout, Duration.parse s.patternMax.text = .ok patternMax ∧
        Duration.parse s.accidentalDouble.text = .ok accidentalDouble ∧
        Duration.parse s.queryTimeout.text = .ok queryTimeout ∧
        t = { s with
          path := Path.ofText (dest.getD s.path).text
          patternMax := patternMax
          accidentalDouble := accidentalDouble
          queryTimeout := queryTimeout } := by
  have tidy := tidy_of_load loaded
  have plain : Json.Plain (stack.json s.fileText) (.object s.members) :=
    (plain_members tidy).of_le (stack.two_le_json _)
  have read : readTextFile written.read (dest.getD s.path) = .ok s.fileText :=
    readTextFile_writeTextFile (plain.printed 0) saved
  have parsed : Json.parse (stack.json s.fileText) s.fileText = .ok (.object s.members) := Json.parse_indented plain
  rw [load_eq_ok, ← gives_saved tidy]
  constructor
  · rintro ⟨text, members, read', parsed', gives⟩
    cases result_unique read read'
    cases result_unique parsed parsed'
    exact gives
  · exact fun gives => ⟨_, _, read, parsed, gives⟩

theorem load_eq_self_of_save (loaded : load stack reader path = .ok s) (saved : s.save files dest = .ok written) :
    load stack written.read (dest.getD s.path) = .ok { s with path := Path.ofText (dest.getD s.path).text } ↔
      ∀ d ∈ s.durations, Duration.parse d.text = .ok d := by
  rw [load_eq_ok_of_save loaded saved]
  simp only [durations, List.forall_mem_cons, mk.injEq, true_and, and_true]
  constructor
  · rintro ⟨_, _, _, first, second, third, rfl, rfl, rfl⟩
    exact ⟨first, second, third, List.forall_mem_nil _⟩
  · rintro ⟨first, second, third, _⟩
    exact ⟨_, _, _, first, second, third, rfl, rfl, rfl⟩

/-- Settings that were loaded, saved and loaded again are the settings as they were, up to their path and the
    durations, which are what their texts are read as. Durations of whole seconds are read as they were. So
    are those below `2 ^ 33` seconds, unless their text has a fraction of a second whose numerator, in
    lowest terms, is too large; then the settings are not loaded. -/
theorem load_saved (loaded : load stack reader path = .ok s) (saved : s.save files dest = .ok written) :
    (∀ t, load stack written.read (dest.getD s.path) = .ok t ↔
      ∃ patternMax accidentalDouble queryTimeout, Duration.parse s.patternMax.text = .ok patternMax ∧
        Duration.parse s.accidentalDouble.text = .ok accidentalDouble ∧
        Duration.parse s.queryTimeout.text = .ok queryTimeout ∧
        t = { s with
          path := Path.ofText (dest.getD s.path).text
          patternMax := patternMax
          accidentalDouble := accidentalDouble
          queryTimeout := queryTimeout }) ∧
    (load stack written.read (dest.getD s.path) = .ok { s with path := Path.ofText (dest.getD s.path).text } ↔
      ∀ d ∈ s.durations, Duration.parse d.text = .ok d) ∧
    ∀ d ∈ s.durations,
      (10 ^ 6 ∣ d.micros.natAbs → Duration.parse d.text = .ok d) ∧
      (d.micros.natAbs < 2 ^ 33 * 10 ^ 6 → Duration.parse d.text =
        if d.micros.natAbs < 10 ^ 6 ∨ d.micros.natAbs / d.micros.natAbs.gcd (10 ^ 6) < 86400000000000 then .ok d
        else .error .outOfRange) := by
  exact ⟨load_eq_ok_of_save loaded saved, load_eq_self_of_save loaded saved, fun d _ =>
    ⟨Duration.parse_text_whole d, fun small => Duration.parse_text d (.inr small)⟩⟩

end

/-- A settings file that gives the path of the table and a timeout. -/
def timeoutFile (timeout : String) : FileReader := fun _ =>
  .ok (Text.Utf8.encode ("\x7b\"actions_path\": \"a\", \"query_timeout\": \"" ++ timeout ++ "\"\x7d").toList)

def withTimeout (timeout : Duration) : Settings where
  path := Path.ofText "s.json"
  actionsPath := Path.ofText "a"
  inputDevices := []
  virtualButtonPipe := none
  grabDevices := false
  patternMax := defaultPatternMax
  accidentalDouble := defaultAccidentalDouble
  queryTimeout := timeout
  lockedCommand := none
  foregroundCommand := none
  titleCommand := none
  androidPattern := defaultAndroidPattern
  builtinCommands := Builtin.all.map fun b => (b, defaultCommand b)

theorem gives_withTimeout {stack : Stack} {timeout : String} {d : Duration} (read : Duration.parse timeout = .ok d) :
    Gives stack [("actions_path", .string "a"), ("query_timeout", .string timeout), ("_path", .string "s.json")]
      (withTimeout d) := by
  constructor
  case queryTimeout => exact (field_of rfl).mpr (readDuration_text.mpr read)
  all_goals rfl

/-- Characters that stand for themselves in a literal. -/
def isVerbatim (c : Char) : Bool :=
  c != '"' && c != '\\' && decide (0x20 ≤ c.toNat) && decide (c.toNat < 0x7F)

theorem isVerbatim_iff {c : Char} :
    isVerbatim c = true ↔ c ≠ '"' ∧ c ≠ '\\' ∧ 0x20 ≤ c.toNat ∧ c.toNat < 0x7F := by
  simp only [isVerbatim, Bool.and_eq_true, bne_iff_ne, decide_eq_true_eq, and_assoc, ne_eq]

theorem readsText_verbatim {text : List Char} (verbatim : text.all isVerbatim = true) (rest : List Char) :
    Json.ReadsText (text ++ '"' :: rest) (text.map .char) rest := by
  refine Json.readsText_plain rest fun c member => ?_
  obtain ⟨quote, escape, large, _⟩ := isVerbatim_iff.mp (List.all_eq_true.mp verbatim c member)
  exact ⟨quote, escape, large⟩

theorem timeoutText_eq (timeout : String) :
    ("\x7b\"actions_path\": \"a\", \"query_timeout\": \"" ++ timeout ++ "\"\x7d").toList =
      '\x7b' :: '"' :: ("actions_path".toList ++ '"' :: ':' :: ' ' :: '"' :: ("a".toList ++ '"' :: ',' :: ' ' ::
        '"' :: ("query_timeout".toList ++ '"' :: ':' :: ' ' :: '"' :: (timeout.toList ++ '"' :: ['\x7d'])))) := by
  rw [String.toList_append, String.toList_append]
  rfl

theorem parse_timeoutText {room : Nat} {timeout : String} (verbatim : timeout.toList.all isVerbatim = true) :
    Json.parse (room + 1) ("\x7b\"actions_path\": \"a\", \"query_timeout\": \"" ++ timeout ++ "\"\x7d").toList =
      .ok (.object [("actions_path", .string "a"), ("query_timeout", .string timeout)]) := by
  rw [timeoutText_eq]
  refine Json.parse_of_reads (by decide) (by decide) (.object (List.dropWhile_cons_of_neg (by decide)) ?_)
  refine .cons (.intro (readsText_verbatim rfl _) rfl (.str (readsText_verbatim rfl _))) rfl ?_
  exact .last [("actions_path", .string "a")]
    (.intro (readsText_verbatim rfl _) rfl (.str (readsText_verbatim verbatim _))) rfl

theorem load_timeoutFile {stack : Stack} {timeout : String} {d : Duration}
    (verbatim : timeout.toList.all isVerbatim = true) (read : Duration.parse timeout = .ok d) :
    load stack (timeoutFile timeout) (Path.ofText "s.json") = .ok (withTimeout d) := by
  have printed : Json.Printed
      ("\x7b\"actions_path\": \"a\", \"query_timeout\": \"" ++ timeout ++ "\"\x7d").toList := by
    rw [String.toList_append, String.toList_append, Json.printed_append, Json.printed_append]
    refine ⟨⟨Json.printed_of_all rfl, fun c member => .inr ?_⟩, Json.printed_of_all rfl⟩
    exact (isVerbatim_iff.mp (List.all_eq_true.mp verbatim c member)).2.2
  obtain ⟨room, same⟩ := Nat.exists_eq_add_of_le' (stack.two_le_json
    ("\x7b\"actions_path\": \"a\", \"query_timeout\": \"" ++ timeout ++ "\"\x7d").toList)
  refine load_eq_ok.mpr ⟨_, [("actions_path", .string "a"), ("query_timeout", .string timeout)],
    readTextFile_encode printed (by decide +kernel) rfl, ?_, gives_withTimeout read⟩
  rw [same]
  exact parse_timeoutText verbatim

def onlySaved (s : Settings) : Files :=
  ⟨[(["t.json"], .file (Text.Utf8.encode s.fileText))], []⟩

theorem save_onlySaved (s : Settings) : s.save ⟨[], []⟩ (some (Path.ofText "t.json")) = .ok (onlySaved s) := by
  have write (bytes : List UInt8) :
      Files.write ⟨[], []⟩ (Path.ofText "t.json") bytes = .ok ⟨[(["t.json"], .file bytes)], []⟩ := by
    rfl
  have noFault : (Path.ofText "t.json").fault? = none := by decide +kernel
  unfold save writeTextFile
  dsimp only [Option.getD_some]
  rw [noFault]
  dsimp only
  rw [write]
  rfl

theorem load_saved_fraction :
    load (.ofFrames 980) (timeoutFile "1.5s") (Path.ofText "s.json") = .ok (withTimeout ⟨1500000, by decide, by decide⟩) ∧
      load (.ofFrames 980) (onlySaved (withTimeout ⟨1500000, by decide, by decide⟩)).read (Path.ofText "t.json") =
        .ok { withTimeout ⟨1500000, by decide, by decide⟩ with path := Path.ofText "t.json" } := by
  have loaded : load (.ofFrames 980) (timeoutFile "1.5s") (Path.ofText "s.json") =
      .ok (withTimeout ⟨1500000, by decide, by decide⟩) :=
    load_timeoutFile rfl (by decide +kernel)
  obtain ⟨_, again, ranges⟩ := load_saved loaded (save_onlySaved _)
  refine ⟨loaded, again.mpr fun d member => ?_⟩
  have small : d.micros.natAbs < 2 ^ 33 * 10 ^ 6 ∧
      (d.micros.natAbs < 10 ^ 6 ∨ d.micros.natAbs / d.micros.natAbs.gcd (10 ^ 6) < 86400000000000) := by
    revert d
    decide +kernel
  rw [(ranges d member).2 small.1, if_pos small.2]

/-- A timeout that its text does not tell to the microsecond, and one whose numerator in seconds is too large:
    the settings that were saved are not loaded. -/
theorem load_saved_inexact :
    (load (.ofFrames 980) (timeoutFile "50000000000000000001us") (Path.ofText "s.json") =
        .ok (withTimeout ⟨50000000000000000001, by decide, by decide⟩) ∧
      load (.ofFrames 980) (onlySaved (withTimeout ⟨50000000000000000001, by decide, by decide⟩)).read (Path.ofText "t.json") =
        .ok { withTimeout ⟨50000000000000000000, by decide, by decide⟩ with path := Path.ofText "t.json" }) ∧
    load (.ofFrames 980) (timeoutFile "86400001000001us") (Path.ofText "s.json") =
        .ok (withTimeout ⟨86400001000001, by decide, by decide⟩) ∧
      ∀ t, load (.ofFrames 980) (onlySaved (withTimeout ⟨86400001000001, by decide, by decide⟩)).read (Path.ofText "t.json") ≠
        .ok t := by
  have loaded : load (.ofFrames 980) (timeoutFile "50000000000000000001us") (Path.ofText "s.json") =
      .ok (withTimeout ⟨50000000000000000001, by decide, by decide⟩) :=
    load_timeoutFile rfl (by decide +kernel)
  have loaded' : load (.ofFrames 980) (timeoutFile "86400001000001us") (Path.ofText "s.json") =
      .ok (withTimeout ⟨86400001000001, by decide, by decide⟩) :=
    load_timeoutFile rfl (by decide +kernel)
  refine ⟨⟨loaded, (load_eq_ok_of_save loaded (save_onlySaved _) _).mpr ?_⟩, loaded', fun t again => ?_⟩
  · exact ⟨⟨350000, by decide, by decide⟩, ⟨10000, by decide, by decide⟩,
      ⟨50000000000000000000, by decide, by decide⟩, by decide +kernel, by decide +kernel, by decide +kernel, rfl⟩
  · obtain ⟨_, _, _, _, _, read, _⟩ := (load_eq_ok_of_save loaded' (save_onlySaved _) t).mp again
    have fails : Duration.parse (Duration.text ⟨86400001000001, by decide, by decide⟩) = .error .outOfRange := by
      decide +kernel
    cases fails.symm.trans read

end Settings

end Gesture
