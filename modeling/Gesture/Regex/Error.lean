import Gesture.Text.Quoted

namespace Gesture.Regex

inductive Cause where
  | danglingEscape
  | badEscape (text : List Char)
  | incompleteEscape (text : List Char)
  | missingBrace
  | undefinedCharacter (name : List Char)
  | octalRange (text : List Char)
  | openGroup
  | lookbehindGroup
  | invalidGroup (index : Nat)
  | unterminatedSet
  | badRange (first last : List Char)
  | countOrder
  | nothingToRepeat
  | multipleRepeat
  | endOfPattern
  | unknownExtension (text : List Char)
  | unterminatedComment
  | unterminatedGroup
  | missingName (what : String)
  | unterminatedName (terminator : Char)
  | badGroupName (name : List Char)
  | unknownGroup (name : List Char)
  | badGroupNumber
  | manyBranches
  | redefinedGroup (name : List Char) (index earlier : Nat)
  | lateFlags
  | localeFlag
  | incompatibleFlags
  | unknownFlag
  | missingFlagEnd
  | missingFlag
  | missingColon
  | globalFlagOn
  | globalFlagOff
  | classFlagOff
  | flagOnAndOff
  | unbalanced
  | variableLookbehind
  | unsupportedRepeat (operator : String)
  deriving DecidableEq, Repr

def Cause.message : Cause → String
  | .danglingEscape => "bad escape (end of pattern)"
  | .badEscape text => "bad escape " ++ String.ofList text
  | .incompleteEscape text => "incomplete escape " ++ String.ofList text
  | .missingBrace => "missing \x7b"
  | .undefinedCharacter name => "undefined character name " ++ String.ofList (Text.quote name)
  | .octalRange text => "octal escape value " ++ String.ofList text ++ " outside of range 0-0o377"
  | .openGroup => "cannot refer to an open group"
  | .lookbehindGroup => "cannot refer to group defined in the same lookbehind subpattern"
  | .invalidGroup index => "invalid group reference " ++ toString index
  | .unterminatedSet => "unterminated character set"
  | .badRange first last =>
    "bad character range " ++ String.ofList first ++ "-" ++ String.ofList last
  | .countOrder => "min repeat greater than max repeat"
  | .nothingToRepeat => "nothing to repeat"
  | .multipleRepeat => "multiple repeat"
  | .endOfPattern => "unexpected end of pattern"
  | .unknownExtension text => "unknown extension ?" ++ String.ofList text
  | .unterminatedComment => "missing ), unterminated comment"
  | .unterminatedGroup => "missing ), unterminated subpattern"
  | .missingName what => "missing " ++ what
  | .unterminatedName terminator =>
    "missing " ++ String.singleton terminator ++ ", unterminated name"
  | .badGroupName name => "bad character in group name " ++ String.ofList (Text.quote name)
  | .unknownGroup name => "unknown group name " ++ String.ofList (Text.quote name)
  | .badGroupNumber => "bad group number"
  | .manyBranches => "conditional backref with more than two branches"
  | .redefinedGroup name index earlier =>
    "redefinition of group name " ++ String.ofList (Text.quote name) ++ " as group " ++
    toString index ++ "; was group " ++ toString earlier
  | .lateFlags => "global flags not at the start of the expression"
  | .localeFlag => "bad inline flags: cannot use 'L' flag with a str pattern"
  | .incompatibleFlags => "bad inline flags: flags 'a', 'u' and 'L' are incompatible"
  | .unknownFlag => "unknown flag"
  | .missingFlagEnd => "missing -, : or )"
  | .missingFlag => "missing flag"
  | .missingColon => "missing :"
  | .globalFlagOn => "bad inline flags: cannot turn on global flag"
  | .globalFlagOff => "bad inline flags: cannot turn off global flag"
  | .classFlagOff => "bad inline flags: cannot turn off flags 'a', 'u' and 'L'"
  | .flagOnAndOff => "bad inline flags: flag turned on and off"
  | .unbalanced => "unbalanced parenthesis"
  | .variableLookbehind => "look-behind requires fixed-width pattern"
  | .unsupportedRepeat operator => "internal: unsupported template operator " ++ operator

/-- A text is refused because it is invalid, at a position if the fault has one; or because a count
    is beyond the engine; or because a number has too many digits to be read; or because its flags
    exclude each other; or because a lookbehind reaches too far. A search fails if a group that it
    reports would end before it begins. -/
inductive Error where
  | invalid (cause : Cause) (position : Option Nat)
  | countTooLarge
  | digitLimit (digits : Nat)
  | conflictingFlags
  | distantLookbehind
  | crossedGroup
  deriving DecidableEq, Repr

/-- The message for an invalid text. In a text of several lines a position is shown by line and
    column too. -/
def invalidMessage (pattern : List Char) (cause : Cause) : Option Nat → String
  | none => cause.message
  | some position =>
    let before := pattern.take position
    let place := cause.message ++ " at position " ++ toString position
    if pattern.contains '\n' then
      place ++ " (line " ++ toString (before.count '\n' + 1) ++ ", column " ++
      toString ((before.reverse.takeWhile (· != '\n')).length + 1) ++ ")"
    else place

end Gesture.Regex
