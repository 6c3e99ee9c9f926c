import Gesture.Text.Blank
import Gesture.Text.Digit
import Gesture.Text.Name.Alias
import Gesture.Text.Name.Ancient
import Gesture.Text.Name.Ideographic
import Gesture.Text.Name.Pictograph
import Gesture.Text.Name.Script
import Gesture.Text.Name.Symbol
import Gesture.Text.Ranges

namespace Gesture.Text

/-- The names in the text of a run: how many words each shares with the one before, and its own. -/
def nameEntries : List Char → List (Nat × List Char)
  | [] => []
  | c :: rest =>
    if 'a' ≤ c ∧ c ≤ 'z' then
      (c.toNat - 'a'.toNat, rest.takeWhile fun d => !(decide ('a' ≤ d) && decide (d ≤ 'z'))) ::
        nameEntries rest
    else nameEntries rest

/-- The code point of the first name that is `target`, where the first entry belongs to `code` and
    the name before it is `previous`. -/
def findName (target : List (List Char)) (code : Nat) (previous : List (List Char)) :
    List (Nat × List Char) → Option Nat
  | [] => none
  | (shared, own) :: rest =>
    let name := previous.take shared ++ words own
    if name = target then some code else findName target (code + 1) name rest

def findInRuns (target : List (List Char)) (runs : List (Nat × List String)) : Option Nat :=
  runs.findSome? fun (first, pieces) =>
    findName target first [] (nameEntries (String.join pieces).toList)

def ideographRanges : Ranges :=
  [(0x3400, 0x4DBF), (0x4E00, 0x9FFF), (0x20000, 0x2A6DF), (0x2A700, 0x2B738),
   (0x2B740, 0x2B81D), (0x2B820, 0x2CEA1), (0x2CEB0, 0x2EBE0), (0x30000, 0x3134A)]

def capitalHexValue? (digits : List Char) : Option Nat :=
  digits.foldlM (fun value c => do
    let digit ← if 'a' ≤ c then none else hexValue? c
    return 16 * value + digit) 0

def ideographNumbered? (digits : List Char) : Option Nat := do
  let code ← if digits.length = 4 ∨ digits.length = 5 then capitalHexValue? digits else none
  if ideographRanges.holds code then some code else none

def syllableInitials : List String :=
  ["G", "GG", "N", "D", "DD", "R", "M", "B", "BB", "S", "SS", "", "J", "JJ", "C", "K", "T", "P",
   "H"]

def syllableMedials : List String :=
  ["A", "AE", "YA", "YAE", "EO", "E", "YEO", "YE", "O", "WA", "WAE", "OE", "YO", "U", "WEO", "WE",
   "WI", "YU", "EU", "YI", "I"]

def syllableFinals : List String :=
  ["", "G", "GG", "GS", "N", "NJ", "NH", "D", "L", "LG", "LM", "LB", "LS", "LT", "LP", "LH", "M",
   "B", "BS", "S", "SS", "NG", "J", "C", "K", "T", "P", "H"]

def longestPart? (parts : List String) (text : List Char) : Option (Nat × List Char) :=
  let fitting := parts.zipIdx.filter fun (part, _) => part.toList.isPrefixOf text
  let best := fitting.foldl (fun best (part, index) =>
    match best with
    | some (length, _) => if length < part.length then some (part.length, index) else best
    | none => some (part.length, index)) none
  best.map fun (length, index) => (index, text.drop length)

def syllable? (text : List Char) : Option Nat := do
  let (initial, text) ← longestPart? syllableInitials text
  let (medial, text) ← longestPart? syllableMedials text
  let (last, text) ← longestPart? syllableFinals text
  if text.isEmpty then some (0xAC00 + (initial * 21 + medial) * 28 + last) else none

/-- Blocks whose characters are numbered by their code points: the words before the number, and the
    first and the last of them. -/
def numberedBlocks : List (String × Nat × Nat) :=
  [("CJK COMPATIBILITY IDEOGRAPH-", 0xF900, 0xFA6D),
   ("CJK COMPATIBILITY IDEOGRAPH-", 0xFA70, 0xFAD9),
   ("CJK COMPATIBILITY IDEOGRAPH-", 0x2F800, 0x2FA1D),
   ("KHITAN SMALL SCRIPT CHARACTER-", 0x18B00, 0x18CD5),
   ("NUSHU CHARACTER-", 0x1B170, 0x1B2FB)]

def numbered? (name : List Char) : Option Nat :=
  numberedBlocks.findSome? fun (words, first, last) => do
    let digits ← if words.toList.isPrefixOf name then some (name.drop words.length) else none
    let code ← capitalHexValue? digits
    let length := if code < 0x10000 then 4 else 5
    if digits.length = length ∧ first ≤ code ∧ code ≤ last then some code else none

/-- The code point of the character of a name. Names that are built by rule are taken in capital
    letters only, numbered blocks apart; for the rest the case of letters does not matter. -/
def characterNamed? (name : List Char) : Option Nat :=
  let ideograph := "CJK UNIFIED IDEOGRAPH-"
  let syllable := "HANGUL SYLLABLE "
  if ideograph.toList.isPrefixOf name then ideographNumbered? (name.drop ideograph.length)
  else if syllable.toList.isPrefixOf name then syllable? (name.drop syllable.length)
  else
    let capitals := name.map Char.toUpper
    let target := splitAt ' ' capitals
    numbered? capitals <|> findInRuns target scriptNames <|> findInRuns target aliasNames <|>
      findInRuns target symbolNames <|> findInRuns target pictographNames <|>
      findInRuns target ideographicNames <|> findInRuns target ancientNames

end Gesture.Text
