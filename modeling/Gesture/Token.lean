import Gesture.Button
import Gesture.Text.Quoted

namespace Gesture

structure Token where
  name : String
  edge : Edge
  deriving DecidableEq, Repr

namespace Token

def text (t : Token) : String :=
  t.name ++ "-" ++ t.edge.word

/-- The text splits at its last hyphen; without one all of it is the word for the edge. A word that
    names no edge is given back as the error. -/
def ofText (text : String) : Except String Token :=
  let reversed := text.toList.reverse
  let word := String.ofList (reversed.takeWhile (· != '-')).reverse
  let name := String.ofList ((reversed.dropWhile (· != '-')).drop 1).reverse
  match Edge.ofWord? word with
  | some edge => .ok ⟨name, edge⟩
  | none => .error word

def badEdgeMessage (word : String) : String :=
  Text.quoted word ++ " is not a valid Edge"

def press (name : String) : Token :=
  ⟨name, .press⟩

def release (name : String) : Token :=
  ⟨name, .release⟩

theorem eq_press {t : Token} (edge : t.edge = .press) : t = press t.name := by
  rw [press, ← edge]

theorem eq_release {t : Token} (edge : t.edge = .release) : t = release t.name := by
  rw [release, ← edge]

def held (tokens : List Token) : List String :=
  tokens.foldl (fun down t => t.edge.apply down t.name) []

end Token

def Button.token (b : Button) (e : Edge) : Token :=
  ⟨b.shortName, e⟩

end Gesture
