import Gesture.Text.Blank
import Gesture.Text.Case
import Gesture.Token

namespace Gesture.Grammar

inductive Fault where
  | unmatchedOpen (position : Nat)
  | unmatchedClose (position : Nat)
  | unexpected (c : Char) (position : Nat)
  | unknownButton (name : String)
  | groupAfterEdge (name : String) (edge : Edge)
  deriving DecidableEq, Repr

structure Error where
  fault : Fault
  text : String
  deriving DecidableEq, Repr

def Error.message (e : Error) : String :=
  (match e.fault with
  | .unmatchedOpen position => "Unmatched '(' at position " ++ toString position
  | .unmatchedClose position => "Unmatched ')' at position " ++ toString position
  | .unexpected c position =>
    "Unexpected " ++ Text.quoted (String.singleton c) ++ " at position " ++ toString position
  | .unknownButton name => "Unknown button " ++ Text.quoted name
  | .groupAfterEdge name edge => name ++ "-" ++ edge.word ++ " cannot open a group") ++
  " in " ++ Text.quoted e.text

def isNameChar (c : Char) : Bool :=
  (decide ('a' ≤ c) && decide (c ≤ 'z')) || (decide ('0' ≤ c) && decide (c ≤ '9'))

def explicitEdge? (text : List Char) : Option (Edge × List Char) :=
  let press := "-press".toList
  let release := "-release".toList
  if press.isPrefixOf text then some (.press, text.drop press.length)
  else if release.isPrefixOf text then some (.release, text.drop release.length)
  else none

/-- What lies before and after the parenthesis that closes an open one, where `depth` more have been
    opened since. -/
def splitClose (depth : Nat) : List Char → Option (List Char × List Char)
  | [] => none
  | c :: rest =>
    if c = ')' then
      match depth with
      | 0 => some ([], rest)
      | depth + 1 => (splitClose depth rest).map fun p => (c :: p.1, p.2)
    else
      (splitClose (if c = '(' then depth + 1 else depth) rest).map fun p => (c :: p.1, p.2)

theorem length_of_splitClose {depth : Nat} {text inner rest : List Char}
    (h : splitClose depth text = some (inner, rest)) :
    inner.length + rest.length + 1 = text.length := by
  induction text generalizing depth inner with
  | nil => simp [splitClose] at h
  | cons c text ih =>
    unfold splitClose at h
    split at h
    · split at h
      · cases h; simp
      · obtain ⟨⟨_, _⟩, found, same⟩ := Option.map_eq_some_iff.mp h
        cases same
        have shorter := ih found
        simp only [List.length_cons] at *; omega
    · obtain ⟨⟨_, _⟩, found, same⟩ := Option.map_eq_some_iff.mp h
      cases same
      have shorter := ih found
      simp only [List.length_cons] at *; omega

theorem length_of_explicitEdge {text rest : List Char} {edge : Edge}
    (h : explicitEdge? text = some (edge, rest)) : rest.length ≤ text.length := by
  simp only [explicitEdge?] at h
  split at h
  · cases h; simp
  · split at h
    · cases h; simp
    · cases h

inductive Term where
  | explicit (token : Token) (rest : List Char)
  | click (name : String) (rest : List Char)
  | group (name : String) (inner rest : List Char)
  deriving DecidableEq, Repr

def Term.left : Term → Nat
  | .explicit _ rest => rest.length
  | .click _ rest => rest.length
  | .group _ inner rest => inner.length + rest.length

def termAt (position : Nat) (c : Char) (rest : List Char) : Except Fault Term :=
  let name := String.ofList (c :: rest.takeWhile isNameChar)
  let after := rest.dropWhile isNameChar
  if (Button.ofShortName? name).isNone then .error (.unknownButton name)
  else
    match explicitEdge? after with
    | some (edge, next) =>
      if next.head? = some '(' then .error (.groupAfterEdge name edge)
      else .ok (.explicit ⟨name, edge⟩ next)
    | none =>
      match after with
      | '(' :: inside =>
        match splitClose 0 inside with
        | some (inner, next) => .ok (.group name inner next)
        | none => .error (.unmatchedOpen (position + (rest.length - inside.length)))
      | _ => .ok (.click name after)

theorem left_of_termAt {position : Nat} {c : Char} {rest : List Char} {t : Term}
    (h : termAt position c rest = .ok t) : t.left ≤ rest.length := by
  have shorter := (List.dropWhile_sublist isNameChar (l := rest)).length_le
  simp only [termAt] at h
  split at h
  · cases h
  · split at h
    · next edge next found =>
      have := length_of_explicitEdge found
      split at h
      · cases h
      · cases h; simp only [Term.left]; omega
    · split at h
      · next inside opened =>
        have split : (rest.dropWhile isNameChar).length = inside.length + 1 := by rw [opened]; rfl
        split at h
        · next inner next found =>
          have := length_of_splitClose found
          cases h; simp only [Term.left]; omega
        · cases h
      · cases h; simpa only [Term.left] using shorter

def tokensFrom (position : Nat) (text : List Char) : Except Fault (List Token) :=
  match text with
  | [] => .ok []
  | c :: rest =>
    if Text.isBlank c then tokensFrom (position + 1) rest
    else if c = ')' then .error (.unmatchedClose position)
    else if !isNameChar c then .error (.unexpected c position)
    else
      match h : termAt position c rest with
      | .error fault => .error fault
      | .ok (.explicit token next) => do
        let tokens ← tokensFrom (position + 1 + (rest.length - next.length)) next
        return token :: tokens
      | .ok (.click name next) => do
        let tokens ← tokensFrom (position + 1 + (rest.length - next.length)) next
        return .press name :: .release name :: tokens
      | .ok (.group name inner next) => do
        let held ← tokensFrom (position + (rest.length - next.length - inner.length)) inner
        let tokens ← tokensFrom (position + 1 + (rest.length - next.length)) next
        return .press name :: held ++ .release name :: tokens
termination_by text.length
decreasing_by
  all_goals simp only [List.length_cons]
  · omega
  all_goals
    have := left_of_termAt h
    simp only [Term.left] at this
    omega

def depthFrom (text : List Char) : Nat :=
  match text with
  | [] => 0
  | c :: rest =>
    if Text.isBlank c then depthFrom rest
    else
      match h : termAt 0 c rest with
      | .error _ => 0
      | .ok (.explicit _ next) => depthFrom next
      | .ok (.click _ next) => depthFrom next
      | .ok (.group _ inner next) =>
        max (depthFrom inner + 1) (if (tokensFrom 0 inner).isOk then depthFrom next else 0)
termination_by text.length
decreasing_by
  all_goals simp only [List.length_cons]
  · omega
  all_goals
    have := left_of_termAt h
    simp only [Term.left] at this
    omega

def depth (pattern : String) : Nat :=
  depthFrom (Text.lower pattern.toList)

def parse (pattern : String) : Except Error (List Token) :=
  let text := Text.lower pattern.toList
  (tokensFrom 0 text).mapError (⟨·, String.ofList text⟩)

end Gesture.Grammar
