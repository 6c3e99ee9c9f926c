import Gesture.Pattern.Grammar
import Gesture.Regex.Error
import Gesture.Text.Digit

namespace Gesture

inductive Refusal where
  | emptyCommand (text : String)
  | intervalNotPositive (text : String)
  | unknownAction (text : String)
  | unknownCondition (text : String)
  | invalidRegex (regex text : String) (cause : Regex.Cause) (position : Option Nat)
  | badPattern (text : String) (error : Grammar.Error)
  | emptyPattern
  | notAnAction (line : String)
  | missingParts (line : String)
  | atLine (number : Nat) (refusal : Refusal)
  deriving DecidableEq, Repr

namespace Refusal

def message : Refusal → String
  | .emptyCommand text => "Empty command in " ++ Text.quoted text
  | .intervalNotPositive text => "Repeat interval must be positive in " ++ Text.quoted text
  | .unknownAction text => "Unknown action " ++ Text.quoted text
  | .unknownCondition text => "Unknown condition " ++ Text.quoted text
  | .invalidRegex regex text cause position =>
    "Invalid regex " ++ Text.quoted regex ++ " in condition " ++ Text.quoted text ++ ": " ++
    Regex.invalidMessage regex.toList cause position
  | .badPattern text error => "Bad pattern " ++ Text.quoted text ++ ": " ++ error.message
  | .emptyPattern => "Empty pattern"
  | .notAnAction line => "Expected a line starting with 'action=', got " ++ Text.quoted line
  | .missingParts line =>
    "Expected action, pattern and condition separated by commas, got " ++ Text.quoted line
  | .atLine number refusal => "line " ++ toString number ++ ": " ++ refusal.message

end Refusal

/-- What is beyond reading: a repetition count in a regular expression, a number of too many digits,
    flags that exclude each other, and a lookbehind that reaches too far. -/
inductive Limit where
  | countTooLarge
  | digits (count : Nat)
  | conflictingFlags
  | distantLookbehind
  deriving DecidableEq, Repr

def Limit.message : Limit → String
  | .countTooLarge => "the repetition number is too large"
  | .digits count => Text.digitLimitMessage count
  | .conflictingFlags => "ASCII and UNICODE flags are incompatible"
  | .distantLookbehind => "the lookbehind reaches too far"

inductive ReadError where
  | refused (refusal : Refusal)
  | beyond (limit : Limit)
  deriving DecidableEq, Repr

end Gesture
