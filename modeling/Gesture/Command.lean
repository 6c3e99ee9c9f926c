import Gesture.CodeText

namespace Gesture

namespace Command

/-- What comes of a command: its status, which is negative for a signal, what it wrote, and how many
    microseconds passed until then; no number means that it never ends. -/
structure Result where
  status : Int
  output : List UInt8
  elapsed : Option Nat
  deriving DecidableEq, Repr

inductive StartError where
  | tooLong
  | nullCharacter
  | stray (stray : CodeText.Stray)
  deriving DecidableEq, Repr

end Command

abbrev Shell := CodeText → Except Command.StartError Command.Result

end Gesture
