import Gesture.Token

namespace Gesture

/-- A sequence of single tokens and groups. A group is the press of a button, what happens while the
    button is down, and its release. -/
inductive Outline where
  | done
  | event (token : Token) (rest : Outline)
  | group (name : String) (inner rest : Outline)
  deriving DecidableEq, Repr

namespace Outline

/-- What lies between the press of `name` and the release that closes it, and what follows. `held`
    are the buttons pressed since, latest first. -/
def closing (name : String) (held : List String) : List Token → Option (List Token × List Token)
  | [] => none
  | t :: rest =>
    match t.edge, held with
    | .press, _ => (closing name (t.name :: held) rest).map fun p => (t :: p.1, p.2)
    -- A release of any other than the latest breaks the nesting.
    | .release, top :: below =>
      if top = t.name then (closing name below rest).map fun p => (t :: p.1, p.2) else none
    | .release, [] => if t.name = name then some ([], rest) else none

theorem length_of_closing {name : String} {held : List String} {tokens inner rest : List Token}
    (h : closing name held tokens = some (inner, rest)) :
    inner.length + rest.length + 1 = tokens.length := by
  induction tokens generalizing held inner with
  | nil => simp [closing] at h
  | cons t tokens ih =>
    unfold closing at h
    split at h
    · obtain ⟨⟨_, _⟩, found, same⟩ := Option.map_eq_some_iff.mp h
      cases same
      have shorter := ih found
      simp only [List.length_cons] at *; omega
    · split at h
      · obtain ⟨⟨_, _⟩, found, same⟩ := Option.map_eq_some_iff.mp h
        cases same
        have shorter := ih found
        simp only [List.length_cons] at *; omega
      · cases h
    · split at h
      · cases h; simp
      · cases h

def ofTokens : List Token → Outline
  | [] => .done
  | t :: rest =>
    match t.edge with
    | .release => .event t (ofTokens rest)
    | .press =>
      match h : closing t.name [] rest with
      | some (inner, after) =>
        have := length_of_closing h
        .group t.name (ofTokens inner) (ofTokens after)
      | none => .event t (ofTokens rest)
termination_by tokens => tokens.length

def tokens : Outline → List Token
  | .done => []
  | .event t rest => t :: rest.tokens
  | .group name inner rest => .press name :: inner.tokens ++ .release name :: rest.tokens

def terms : Outline → List String
  | .done => []
  | .event t rest => t.text :: rest.terms
  | .group name inner rest =>
    (match inner.terms with
    | [] => name
    | held => name ++ "(" ++ " ".intercalate held ++ ")") :: rest.terms

def text (o : Outline) : String :=
  " ".intercalate o.terms

def depth : Outline → Nat
  | .done => 0
  | .event _ rest => rest.depth
  | .group _ inner rest => max (inner.depth + 1) rest.depth

end Outline

def Token.condense (tokens : List Token) : String :=
  (Outline.ofTokens tokens).text

end Gesture
