import Gesture.Proofs.Compiled
import Mathlib.Data.List.Nodup

namespace Gesture

/-- The text in a reply, if the query did not fail and there is one. -/
def Reply.text? : Reply (Option String) → Option String
  | .answered text => text
  | .failed => none

structure Answers where
  locked : Reply Bool
  foreground : Reply (Option String)
  title : Reply (Option String)

namespace Answers

def isLocked (a : Answers) : Bool :=
  match a.locked with
  | .answered locked => locked
  | .failed => false

def notesOf (a : Answers) : Query → List Note
  | .locked => Snapshot.notesOn .locked a.locked
  | .foreground => Snapshot.notesOn .foreground a.foreground
  | .title => Snapshot.notesOn .title a.title

/-- The answers with another reply to one query: the one that a host gives at a moment. -/
def hear (a : Answers) (host : Host) (m : Moment) : Query → Answers
  | .locked => { a with locked := host.locked m }
  | .foreground => { a with foreground := host.foreground m }
  | .title => { a with title := host.title m }

end Answers

/-- What a host replies to queries that are asked one after another at one time, after `count` others.
    The first reply to each query counts; `unasked` are the answers to the queries that are not asked. -/
def Host.answersFrom (host : Host) (time : Rat) (received : Nat) (unasked : Answers) :
    Nat → List Query → Answers
  | _, [] => unasked
  | count, q :: rest =>
    (host.answersFrom time received unasked (count + 1) rest).hear host ⟨time, received, count⟩ q

/-- The first replies of a host to the queries that are asked for one snapshot. -/
def Host.answers (host : Host) (time : Rat) (received : Nat) (queries : List Query) (unasked : Answers) :
    Answers :=
  host.answersFrom time received unasked 0 queries

namespace Condition

/-- Whether a condition is true under answers, where `search` tells if an expression occurs in a text. A
    reply that is missing makes every condition on it false. -/
def holds (search : String → String → Bool) (android : String) (a : Answers) : Condition → Bool
  | .always => true
  | .locked => a.isLocked
  | .unlocked => !a.isLocked
  | .home => !a.isLocked && a.foreground == .answered none
  | .noApp => a.foreground == .answered none
  | .anyApp => a.foreground.text?.isSome
  | .android => a.foreground.text?.any (search android)
  | .app regex => a.foreground.text?.any (search regex)
  | .title regex => a.title.text?.any (search regex)

/-- The queries that have to be answered to decide a condition. With a locked screen nobody is at home. -/
def needs (a : Answers) : Condition → List Query
  | .always => []
  | .locked | .unlocked => [.locked]
  | .home => if a.isLocked then [.locked] else [.locked, .foreground]
  | .noApp | .anyApp | .android | .app _ => [.foreground]
  | .title _ => [.title]

/-- What comes of a condition under answers. An expression that cannot be searched for is an error, once
    there is a text to search in. -/
def outcome (android : String) (a : Answers) : Condition → Except Regex.Error Bool
  | .always => .ok true
  | .locked => .ok a.isLocked
  | .unlocked => .ok !a.isLocked
  | .home => .ok (!a.isLocked && Snapshot.windowIs false a.foreground)
  | .noApp => .ok (Snapshot.windowIs false a.foreground)
  | .anyApp => .ok (Snapshot.windowIs true a.foreground)
  | .android => Snapshot.textMatches android a.foreground
  | .app regex => Snapshot.textMatches regex a.foreground
  | .title regex => Snapshot.textMatches regex a.title

def searched? (android : String) : Condition → Option String
  | .android => some android
  | c => c.regex?

end Condition

/-- Whether searching for an expression never fails and finds what `search` says. -/
def Regex.Finds (search : String → String → Bool) (regex : String) : Prop :=
  ∀ text, (do (← Regex.compile regex).search text) = .ok (search regex text)

/-- Whether an expression occurs in a text, as far as it can be searched for. -/
def Regex.occurs (regex text : String) : Bool :=
  match (do (← Regex.compile regex).search text : Except Regex.Error Bool) with
  | .ok found => found
  | .error _ => false

theorem Regex.finds_of_no_groups {regex : String} (valid : (Regex.compile regex).map (·.groups) = .ok 0) :
    Regex.Finds Regex.occurs regex := by
  obtain ⟨compiled, ofRegex, none⟩ := map_eq_ok valid
  intro text
  have searched : ∃ found, compiled.search text = .ok found := by
    unfold Regex.search Program.search
    rw [none]
    split
    · exact ⟨false, rfl⟩
    · exact ⟨true, rfl⟩
  obtain ⟨found, searched⟩ := searched
  simp only [Regex.occurs, ofRegex, bind, Except.bind, searched]

namespace Snapshot

def queries (s : Snapshot) : List Query :=
  s.notes.filterMap fun
    | .asked q => some q
    | .failed _ => none

def knows (s : Snapshot) : Query → Bool
  | .locked => s.locked.isSome
  | .foreground => s.foreground.isSome
  | .title => s.title.isSome

def ask (host : Host) (time : Rat) (s : Snapshot) : Query → Snapshot
  | .locked => (s.askLocked host time).2
  | .foreground => (s.askForeground host time).2
  | .title => (s.askTitle host time).2

def learn (a : Answers) (s : Snapshot) : Query → Snapshot
  | .locked => { s with locked := some a.isLocked, notes := s.notes ++ a.notesOf .locked }
  | .foreground => { s with foreground := some a.foreground, notes := s.notes ++ a.notesOf .foreground }
  | .title => { s with title := some a.title, notes := s.notes ++ a.notesOf .title }

def after (host : Host) (android : String) (time : Rat) (s : Snapshot) (conditions : List Condition) :
    Snapshot :=
  conditions.foldl (fun s c => (s.evaluate host android time c).2) s

end Snapshot

structure Answers.Agrees (a : Answers) (s : Snapshot) : Prop where
  locked : ∀ locked ∈ s.locked, a.isLocked = locked
  foreground : ∀ reply ∈ s.foreground, a.foreground = reply
  title : ∀ reply ∈ s.title, a.title = reply

def Answers.SameOn (a b : Answers) : Query → Prop
  | .locked => a.locked = b.locked
  | .foreground => a.foreground = b.foreground
  | .title => a.title = b.title

structure Snapshot.Faithful (host : Host) (time : Rat) (received : Nat) (s : Snapshot) : Prop where
  cycle : s.received = received
  known : ∀ q, s.knows q = true ↔ q ∈ s.queries
  once : s.queries.Nodup
  agrees : ∀ unasked, (host.answers time received s.queries unasked).Agrees s
  noted : ∀ unasked, s.notes = s.queries.flatMap (host.answers time received s.queries unasked).notesOf

namespace Answers

variable {host : Host} {time : Rat} {received : Nat} {a b unasked : Answers} {q : Query}

theorem SameOn.notesOf (same : a.SameOn b q) : a.notesOf q = b.notesOf q := by
  cases q <;> simp only [SameOn] at same <;> simp only [Answers.notesOf, same]

theorem sameOn_hear {p : Query} (other : q ≠ p) (a : Answers) (host : Host) (m : Moment) :
    (a.hear host m p).SameOn a q := by
  cases p <;> cases q <;> first | exact absurd rfl other | rfl

theorem sameOn_answersFrom {queries : List Query} (absent : q ∉ queries) (count : Nat) :
    (host.answersFrom time received unasked count queries).SameOn unasked q := by
  induction queries generalizing count with
  | nil => cases q <;> rfl
  | cons p rest ih =>
    obtain ⟨other, absent⟩ := List.ne_and_not_mem_of_not_mem_cons absent
    have here := sameOn_hear other (host.answersFrom time received unasked (count + 1) rest) host
      ⟨time, received, count⟩
    have later := ih absent (count + 1)
    cases q <;> exact here.trans later

theorem answersFrom_append (count : Nat) (left right : List Query) :
    host.answersFrom time received unasked count (left ++ right) =
      host.answersFrom time received
        (host.answersFrom time received unasked (count + left.length) right) count left := by
  induction left generalizing count with
  | nil => rfl
  | cons q rest ih =>
    rw [List.cons_append, Host.answersFrom, ih, Host.answersFrom, List.length_cons, Nat.add_right_comm,
      Nat.add_assoc]

theorem answers_append (left right : List Query) :
    host.answers time received (left ++ right) unasked =
      host.answers time received left (host.answersFrom time received unasked left.length right) := by
  rw [Host.answers, answersFrom_append, Nat.zero_add, Host.answers]

end Answers

namespace Snapshot

variable {host : Host} {android : String} {time : Rat} {s : Snapshot} {q : Query} {a : Answers}

theorem asked_eq (s : Snapshot) : s.asked = s.queries.length := by
  unfold asked queries
  induction s.notes with
  | nil => rfl
  | cons note rest ih => cases note <;> simp [ih]

theorem ask_of_knows (known : s.knows q = true) : s.ask host time q = s := by
  cases q
  all_goals
    obtain ⟨_, same⟩ := Option.isSome_iff_exists.mp known
    simp only [ask, askLocked, askForeground, askTitle, same]

theorem ask_of_unknown (unknown : s.knows q = false) (a : Answers) :
    s.ask host time q = s.learn (a.hear host (s.moment time) q) q := by
  cases q
  all_goals
    have none := Option.isNone_iff_eq_none.mp (Option.isSome_eq_false_iff.mp unknown)
    simp only [ask, askLocked, askForeground, askTitle, none]
    rfl

theorem queries_learn (s : Snapshot) (a : Answers) (q : Query) : (s.learn a q).queries = s.queries ++ [q] := by
  have one : ∀ {α : Type} (q : Query) (r : Reply α), (notesOn q r).filterMap (fun
      | .asked q => some q
      | .failed _ => none) = [q] := by
    intro α q r
    cases r <;> rfl
  cases q <;> simp only [learn, queries, Answers.notesOf, List.filterMap_append, one]

theorem knows_learn (s : Snapshot) (a : Answers) (q p : Query) :
    (s.learn a q).knows p = (s.knows p || p == q) := by
  cases q <;> cases p <;> simp [learn, knows]

theorem notes_learn (s : Snapshot) (a : Answers) (q : Query) :
    (s.learn a q).notes = s.notes ++ a.notesOf q := by
  cases q <;> rfl

theorem received_learn (s : Snapshot) (a : Answers) (q : Query) : (s.learn a q).received = s.received := by
  cases q <;> rfl

end Snapshot

namespace Answers

variable {host : Host} {time : Rat} {s : Snapshot} {q : Query} {a b : Answers}

theorem Agrees.learn (agrees : a.Agrees s) (same : a.SameOn b q) : a.Agrees (s.learn b q) := by
  cases q with
  | locked =>
    refine ⟨?_, agrees.foreground, agrees.title⟩
    rintro _ ⟨⟩
    simp only [isLocked, show a.locked = b.locked from same]
  | foreground =>
    refine ⟨agrees.locked, ?_, agrees.title⟩
    rintro _ ⟨⟩
    exact same
  | title =>
    refine ⟨agrees.locked, agrees.foreground, ?_⟩
    rintro _ ⟨⟩
    exact same

theorem Agrees.of_learn (agrees : a.Agrees (s.learn b q)) (unknown : s.knows q = false) : a.Agrees s := by
  cases q with
  | locked =>
    have none : s.locked = none := by simpa [Snapshot.knows] using unknown
    exact ⟨by simp [none], agrees.foreground, agrees.title⟩
  | foreground =>
    have none : s.foreground = none := by simpa [Snapshot.knows] using unknown
    exact ⟨agrees.locked, by simp [none], agrees.title⟩
  | title =>
    have none : s.title = none := by simpa [Snapshot.knows] using unknown
    exact ⟨agrees.locked, agrees.foreground, by simp [none]⟩

theorem Agrees.of_ask (agrees : a.Agrees (s.ask host time q)) : a.Agrees s := by
  cases known : s.knows q with
  | true => rwa [Snapshot.ask_of_knows known] at agrees
  | false =>
    rw [Snapshot.ask_of_unknown known a] at agrees
    exact agrees.of_learn known

theorem Agrees.of_asks {queries : List Query}
    (agrees : a.Agrees (queries.foldl (Snapshot.ask host time) s)) : a.Agrees s := by
  induction queries generalizing s with
  | nil => exact agrees
  | cons q rest ih => exact (ih agrees).of_ask

end Answers

theorem Answers.count_notesOf (a : Answers) (queries : List Query) (q : Query) :
    (queries.flatMap a.notesOf).count (.asked q) = queries.count q ∧
      (queries.flatMap a.notesOf).count (.failed q) ≤ queries.count q := by
  have one : ∀ p, (a.notesOf p).count (.asked q) = [p].count q ∧
      (a.notesOf p).count (.failed q) ≤ [p].count q := by
    intro p
    have noted : ∀ {α : Type} (r : Reply α),
        Snapshot.notesOn p r = [.asked p] ∨ Snapshot.notesOn p r = [.asked p, .failed p] := by
      intro α r
      cases r with
      | answered _ => exact .inl rfl
      | failed => exact .inr rfl
    have either : a.notesOf p = [.asked p] ∨ a.notesOf p = [.asked p, .failed p] := by
      cases p <;> exact noted _
    rcases either with same | same <;> rw [same] <;> cases p <;> cases q <;> decide
  induction queries with
  | nil => simp
  | cons p rest ih =>
    rw [List.flatMap_cons, ← List.singleton_append, List.count_append, List.count_append,
      List.count_append, (one p).1, ih.1]
    exact ⟨rfl, Nat.add_le_add (one p).2 ih.2⟩

namespace Snapshot.Faithful

variable {host : Host} {time : Rat} {received : Nat} {s : Snapshot}

theorem start (host : Host) (time : Rat) (received : Nat) :
    ({ received := received } : Snapshot).Faithful host time received where
  cycle := rfl
  known q := by cases q <;> simp [knows, queries]
  once := List.nodup_nil
  agrees unasked := ⟨by simp, by simp, by simp⟩
  noted unasked := rfl

theorem ask (faithful : s.Faithful host time received) (q : Query) :
    (s.ask host time q).Faithful host time received := by
  cases known : s.knows q with
  | true => rwa [ask_of_knows known]
  | false =>
    have absent : q ∉ s.queries := fun member => by simp [(faithful.known q).mpr member] at known
    have learned (unasked : Answers) : s.ask host time q = s.learn (unasked.hear host (s.moment time) q) q :=
      ask_of_unknown known unasked
    have silent : Answers := ⟨.failed, .failed, .failed⟩
    -- The answers with this query among those asked are the answers without it, if it has this reply.
    have answers (unasked : Answers) : host.answers time received (s.queries ++ [q]) unasked =
        host.answers time received s.queries (unasked.hear host (s.moment time) q) := by
      rw [Answers.answers_append, moment, asked_eq, faithful.cycle]
      rfl
    have same (unasked : Answers) : (host.answers time received s.queries unasked).SameOn unasked q :=
      Answers.sameOn_answersFrom absent 0
    constructor
    · rw [learned silent, received_learn, faithful.cycle]
    · intro p
      rw [learned silent, knows_learn, queries_learn, List.mem_append, List.mem_singleton, ← faithful.known]
      simp
    · rw [learned silent, queries_learn]
      refine List.nodup_append.mpr ⟨faithful.once, List.nodup_singleton q, ?_⟩
      rintro p member _ new rfl
      exact absent (List.mem_singleton.mp new ▸ member)
    · intro unasked
      rw [learned unasked, queries_learn, answers]
      exact (faithful.agrees _).learn (same _)
    · intro unasked
      rw [learned unasked, queries_learn, answers, notes_learn, List.flatMap_append, ← faithful.noted,
        List.flatMap_singleton, (same _).notesOf]

theorem notes_once (faithful : s.Faithful host time received) (q : Query) :
    s.notes.count (.asked q) ≤ 1 ∧ s.notes.count (.failed q) ≤ 1 := by
  have silent : Answers := ⟨.failed, .failed, .failed⟩
  have once : s.queries.count q ≤ 1 := List.nodup_iff_count_le_one.mp faithful.once q
  obtain ⟨asked, failed⟩ := (host.answers time received s.queries silent).count_notesOf s.queries q
  rw [faithful.noted silent, asked]
  exact ⟨once, Nat.le_trans failed once⟩

theorem asks (faithful : s.Faithful host time received) (queries : List Query) :
    (queries.foldl (Snapshot.ask host time) s).Faithful host time received := by
  induction queries generalizing s with
  | nil => exact faithful
  | cons q rest ih => exact ih (faithful.ask q)

theorem queries_asks (faithful : s.Faithful host time received) {queries : List Query}
    (once : queries.Nodup) :
    (queries.foldl (Snapshot.ask host time) s).queries =
      s.queries ++ queries.filter fun q => decide (q ∉ s.queries) := by
  induction queries generalizing s with
  | nil => simp
  | cons q rest ih =>
    obtain ⟨absent, once⟩ := List.nodup_cons.mp once
    rw [List.foldl_cons, ih (faithful.ask q) once]
    cases known : s.knows q with
    | true =>
      have asked : q ∈ s.queries := (faithful.known q).mp known
      simp [ask_of_knows known, asked]
    | false =>
      have new : q ∉ s.queries := fun member => by simp [(faithful.known q).mpr member] at known
      have others : ∀ p ∈ rest, p ≠ q := fun p member same => absent (same ▸ member)
      rw [ask_of_unknown known ⟨.failed, .failed, .failed⟩, queries_learn,
        List.filter_cons_of_pos (by simpa using new), List.append_assoc, List.singleton_append]
      congr 2
      refine List.filter_congr fun p member => ?_
      simp [others p member]

theorem answers_extend (faithful : s.Faithful host time received) {queries : List Query}
    (begins : s.queries <+: queries) (unasked : Answers) :
    (host.answers time received queries unasked).Agrees s ∧
      s.notes = s.queries.flatMap (host.answers time received queries unasked).notesOf := by
  obtain ⟨rest, rfl⟩ := begins
  rw [Answers.answers_append]
  exact ⟨faithful.agrees _, faithful.noted _⟩

end Snapshot.Faithful

theorem Snapshot.windowIs_true (reply : Reply (Option String)) : windowIs true reply = reply.text?.isSome := by
  rcases reply with ⟨_ | _⟩ | _ <;> rfl

theorem Snapshot.windowIs_false (reply : Reply (Option String)) :
    windowIs false reply = (reply == .answered none) := by
  rcases reply with ⟨_ | _⟩ | _ <;> rfl

theorem Regex.Finds.textMatches {search : String → String → Bool} {regex : String}
    (finds : Regex.Finds search regex) (reply : Reply (Option String)) :
    Snapshot.textMatches regex reply = .ok (reply.text?.any (search regex)) := by
  rcases reply with ⟨_ | text⟩ | _
  · rfl
  · exact finds text
  · rfl

theorem Condition.outcome_of_finds {search : String → String → Bool} {android : String} {c : Condition}
    (finds : ∀ regex ∈ c.searched? android, Regex.Finds search regex) (a : Answers) :
    c.outcome android a = .ok (c.holds search android a) := by
  cases c with
  | always | locked | unlocked => rfl
  | home | noApp => rw [outcome, Snapshot.windowIs_false]; rfl
  | anyApp => rw [outcome, Snapshot.windowIs_true]; rfl
  | android => exact (finds android rfl).textMatches a.foreground
  | app regex => exact (finds regex rfl).textMatches a.foreground
  | title regex => exact (finds regex rfl).textMatches a.title

namespace Answers

variable {host : Host} {time : Rat} {s : Snapshot} {a : Answers}

def Gets (a : Answers) (host : Host) (time : Rat) (s : Snapshot) : Query → Prop
  | .locked => s.askLocked host time = (a.isLocked, s.ask host time .locked)
  | .foreground => s.askForeground host time = (a.foreground, s.ask host time .foreground)
  | .title => s.askTitle host time = (a.title, s.ask host time .title)

theorem Agrees.gets {q : Query} (agrees : a.Agrees (s.ask host time q)) : a.Gets host time s q := by
  cases q
  all_goals refine Prod.ext (Eq.symm ?_) rfl
  case' locked => apply agrees.locked
  case' foreground => apply agrees.foreground
  case' title => apply agrees.title
  -- Whether it was known or asked for, the answer is in the snapshot after it.
  all_goals
    dsimp only [Snapshot.ask, Snapshot.askLocked, Snapshot.askForeground, Snapshot.askTitle]
    split
    · assumption
    · rfl

end Answers

namespace Snapshot

variable {host : Host} {android : String} {time : Rat} {s : Snapshot} {a : Answers} {c : Condition}

theorem evaluate_asks (host : Host) (android : String) (time : Rat) (s : Snapshot) (c : Condition) :
    ∃ queries : List Query, (s.evaluate host android time c).2 = queries.foldl (ask host time) s := by
  cases c with
  | always => exact ⟨[], rfl⟩
  | locked | unlocked => exact ⟨[.locked], rfl⟩
  | home =>
    by_cases locked : (s.askLocked host time).1 = true
    · exact ⟨[.locked], by simp only [evaluate, locked, if_true]; rfl⟩
    · exact ⟨[.locked, .foreground], by simp only [evaluate, if_neg locked]; rfl⟩
  | noApp | anyApp | android | app regex => exact ⟨[.foreground], rfl⟩
  | title regex => exact ⟨[.title], rfl⟩

/-- A condition comes out as it does under answers that agree with what is known after evaluating it, and
    asks what it needs. -/
theorem evaluate_eq_outcome (agrees : a.Agrees (s.evaluate host android time c).2) :
    s.evaluate host android time c = (c.outcome android a, (c.needs a).foldl (ask host time) s) := by
  cases c with
  | always => rfl
  | locked | unlocked =>
    have reply : a.Gets host time s .locked := agrees.gets
    rw [Answers.Gets] at reply
    simp only [evaluate, reply]
    rfl
  | home =>
    -- The window in front is asked for only on an unlocked screen.
    by_cases locked : (s.askLocked host time).1 = true
    · simp only [evaluate, locked, if_true] at agrees ⊢
      have reply : a.Gets host time s .locked := agrees.gets
      rw [Answers.Gets] at reply
      have isLocked : a.isLocked = true := by rwa [reply] at locked
      simp only [Condition.outcome, Condition.needs, isLocked, Bool.not_true, Bool.false_and, if_true]
      rfl
    · simp only [evaluate, if_neg locked] at agrees ⊢
      have reply : a.Gets host time (s.ask host time .locked) .foreground := agrees.gets
      have known : a.Gets host time s .locked := (Answers.Agrees.of_ask (q := .foreground) agrees).gets
      rw [Answers.Gets] at reply
      rw [Answers.Gets] at known
      have unlocked : a.isLocked = false := by simpa [known] using locked
      simp only [known, reply, Condition.outcome, Condition.needs, unlocked, Bool.not_false, Bool.true_and]
      rfl
  | noApp | anyApp | android | app regex =>
    have reply : a.Gets host time s .foreground := agrees.gets
    rw [Answers.Gets] at reply
    simp only [evaluate, reply]
    rfl
  | title regex =>
    have reply : a.Gets host time s .title := agrees.gets
    rw [Answers.Gets] at reply
    simp only [evaluate, reply]
    rfl

theorem evaluate_of_agrees {search : String → String → Bool}
    (finds : ∀ regex ∈ c.searched? android, Regex.Finds search regex)
    (agrees : a.Agrees (s.evaluate host android time c).2) :
    s.evaluate host android time c = (.ok (c.holds search android a), (c.needs a).foldl (ask host time) s) := by
  rw [evaluate_eq_outcome agrees, Condition.outcome_of_finds finds]

theorem prefix_queries_ask (s : Snapshot) (q : Query) : s.queries <+: (s.ask host time q).queries := by
  cases known : s.knows q with
  | true => exact (ask_of_knows known).symm ▸ List.prefix_rfl
  | false =>
    rw [ask_of_unknown known ⟨.failed, .failed, .failed⟩, queries_learn]
    exact List.prefix_append _ _

theorem prefix_queries_evaluate (s : Snapshot) (c : Condition) :
    s.queries <+: (s.evaluate host android time c).2.queries := by
  obtain ⟨queries, same⟩ := evaluate_asks host android time s c
  rw [same]
  clear same
  induction queries generalizing s with
  | nil => exact List.prefix_rfl
  | cons q rest ih => exact (prefix_queries_ask s q).trans (ih _)

theorem prefix_queries_after (s : Snapshot) (conditions : List Condition) :
    s.queries <+: (s.after host android time conditions).queries := by
  induction conditions generalizing s with
  | nil => exact List.prefix_rfl
  | cons c rest ih => exact (prefix_queries_evaluate s c).trans (ih _)

theorem after_append (s : Snapshot) (left right : List Condition) :
    s.after host android time (left ++ right) =
      (s.after host android time left).after host android time right :=
  List.foldl_append

theorem Faithful.evaluate {received : Nat} (faithful : s.Faithful host time received) (c : Condition) :
    (s.evaluate host android time c).2.Faithful host time received := by
  obtain ⟨queries, same⟩ := evaluate_asks host android time s c
  rw [same]
  exact faithful.asks queries

theorem Faithful.after {received : Nat} (faithful : s.Faithful host time received)
    (conditions : List Condition) : (s.after host android time conditions).Faithful host time received := by
  induction conditions generalizing s with
  | nil => exact faithful
  | cons c rest ih => exact ih (faithful.evaluate c)

theorem nodup_needs (a : Answers) (c : Condition) : (c.needs a).Nodup := by
  cases c with
  | home =>
    simp only [Condition.needs]
    split <;> decide
  | _ => simp [Condition.needs]

theorem Faithful.evaluate_eq {received : Nat} (faithful : s.Faithful host time received)
    {search : String → String → Bool} (finds : ∀ regex ∈ c.searched? android, Regex.Finds search regex)
    {queries : List Query} (begins : (s.evaluate host android time c).2.queries <+: queries)
    (unasked : Answers) :
    let answers := host.answers time received queries unasked
    let new := (c.needs answers).filter fun q => decide (q ∉ s.queries)
    (s.evaluate host android time c).1 = .ok (c.holds search android answers) ∧
      (s.evaluate host android time c).2.queries = s.queries ++ new ∧
      (s.evaluate host android time c).2.notes = s.notes ++ new.flatMap answers.notesOf := by
  intro answers new
  obtain ⟨agrees, noted⟩ := (faithful.evaluate c).answers_extend begins unasked
  have before := (faithful.answers_extend ((prefix_queries_evaluate s c).trans begins) unasked).2
  have evaluated := evaluate_of_agrees finds agrees
  have asked : (s.evaluate host android time c).2.queries = s.queries ++ new := by
    rw [evaluated]
    exact faithful.queries_asks (nodup_needs answers c)
  refine ⟨by rw [evaluated], asked, ?_⟩
  rw [noted, asked, List.flatMap_append, ← before]

/-- Conditions that are evaluated against one snapshot are true or false as the first replies of the host
    make them, whatever it would have replied later. Each query is asked at most once, by the first
    condition that needs it, and warned of at most once. -/
theorem evaluate_on_first_replies (host : Host) {android : String} {search : String → String → Bool}
    {conditions : List Condition}
    (finds : ∀ c ∈ conditions, ∀ regex ∈ c.searched? android, Regex.Finds search regex)
    (time : Rat) (received : Nat) (unasked : Answers) :
    let later := after host android time { received := received }
    let answers := host.answers time received (later conditions).queries unasked
    (∀ q, (later conditions).notes.count (.asked q) ≤ 1 ∧ (later conditions).notes.count (.failed q) ≤ 1) ∧
      ∀ before c rest, conditions = before ++ c :: rest →
        ((later before).evaluate host android time c).1 = .ok (c.holds search android answers) ∧
          (later (before ++ [c])).notes = (later before).notes ++
            ((c.needs answers).filter fun q => decide (q ∉ (later before).queries)).flatMap
              answers.notesOf := by
  intro later answers
  have start := Faithful.start host time received
  refine ⟨(start.after conditions).notes_once, ?_⟩
  · rintro before c rest rfl
    have evaluated : later (before ++ [c]) = ((later before).evaluate host android time c).2 :=
      after_append _ before [c]
    have onward : later (before ++ c :: rest) =
        ((later before).evaluate host android time c).2.after host android time rest :=
      after_append _ before (c :: rest)
    have begins : ((later before).evaluate host android time c).2.queries <+:
        (later (before ++ c :: rest)).queries := onward ▸ prefix_queries_after _ rest
    obtain ⟨result, _, noted⟩ := (start.after before).evaluate_eq (finds c (by simp)) begins unasked
    exact ⟨result, evaluated ▸ noted⟩

def fickle : Host where
  locked _ := .failed
  foreground m := if m.asked = 1 then .answered (some "alien") else .answered none
  title _ := .failed

def severalConditions : List Condition :=
  [.home, .app "alien", .title "x", .noApp, .home, .title "x", .unlocked]

theorem evaluate_on_first_replies_fickle :
    let later := after fickle "" 0 {}
    (∀ c ∈ severalConditions, ∀ regex ∈ c.searched? "", Regex.Finds Regex.occurs regex) ∧
      (later severalConditions).queries = [.locked, .foreground, .title] ∧
      (later severalConditions).notes.count (.asked .foreground) ≤ 1 ∧
      ((later [.home]).evaluate fickle "" 0 (.app "alien")).1 = .ok true ∧
      ((later (severalConditions.take 3)).evaluate fickle "" 0 .noApp).1 = .ok false := by
  have finds : ∀ c ∈ severalConditions, ∀ regex ∈ c.searched? "", Regex.Finds Regex.occurs regex := by
    have alien : Regex.Finds Regex.occurs "alien" := Regex.finds_of_no_groups (by decide +kernel)
    have x : Regex.Finds Regex.occurs "x" := Regex.finds_of_no_groups (by decide +kernel)
    simp [severalConditions, Condition.searched?, Condition.regex?, alien, x]
  obtain ⟨once, evaluated⟩ := evaluate_on_first_replies fickle finds 0 0 ⟨.failed, .failed, .failed⟩
  refine ⟨finds, by decide +kernel, (once _).1, ?_, ?_⟩
  · obtain ⟨result, _⟩ := evaluated [.home] (.app "alien") (severalConditions.drop 2) rfl
    rw [result]
    decide +kernel
  · obtain ⟨result, _⟩ := evaluated (severalConditions.take 3) .noApp (severalConditions.drop 4) rfl
    rw [result]
    decide +kernel

end Snapshot

end Gesture
