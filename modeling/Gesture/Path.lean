import Gesture.CodeText
import Gesture.Text.Blank

namespace Gesture

/-- A path: how many slashes it starts with, and its parts. Two slashes at the start are kept apart
    from one; more than two count as one. Double dots are kept, since what they mean depends on the
    files. -/
structure Path where
  slashes : Nat
  parts : List CodeText
  deriving DecidableEq, Repr

namespace Path

def ofText (text : CodeText) : Path :=
  let leading := (text.takeWhile (· == .char '/')).length
  let parts := (Text.splitAt (.char '/') text).filter fun part => !part.isEmpty && part != [.char '.']
  ⟨if 2 < leading then 1 else leading, parts⟩

def text (p : Path) : CodeText :=
  if p.slashes = 0 ∧ p.parts = [] then [.char '.']
  else List.replicate p.slashes (.char '/') ++ [CodePoint.char '/'].intercalate p.parts

def shown (p : Path) : String :=
  p.text.shown

def isAbsolute (p : Path) : Bool :=
  p.slashes != 0

def parent (p : Path) : Path :=
  { p with parts := p.parts.dropLast }

def join (base p : Path) : Path :=
  if p.isAbsolute then p else { base with parts := base.parts ++ p.parts }

end Path

end Gesture
