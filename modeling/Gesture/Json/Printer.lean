import Gesture.Json

namespace Gesture.Json

def unitEscape (unit : Nat) : List Char :=
  '\\' :: 'u' :: Text.hexDigits 4 unit

def escapeChar (c : Char) : List Char :=
  if c = '"' ∨ c = '\\' then ['\\', c]
  else if c = '\n' then ['\\', 'n']
  else if c = '\r' then ['\\', 'r']
  else if c = '\t' then ['\\', 't']
  else if c = '\x0c' then ['\\', 'f']
  else if c = '\x08' then ['\\', 'b']
  else if 0x20 ≤ c.toNat ∧ c.toNat < 0x7F then [c]
  else if c.toNat < 0x10000 then unitEscape c.toNat
  else
    let above := c.toNat - 0x10000
    unitEscape (0xD800 + above / 0x400) ++ unitEscape (0xDC00 + above % 0x400)

def escapePoint : CodePoint → List Char
  | .char c => escapeChar c
  | p => unitEscape p.code

def textLiteral (t : CodeText) : List Char :=
  '"' :: t.flatMap escapePoint ++ ['"']

def floatText : Binary64 → List Char
  | .nan => "NaN".toList
  | .infinite negative => if negative then "-Infinity".toList else "Infinity".toList
  | x => x.chars

mutual

def compact : Json → List Char
  | .null => "null".toList
  | .bool b => if b then "true".toList else "false".toList
  | .int n => intText n
  | .float x => floatText x
  | .str t => textLiteral t
  | .array items => '[' :: compactItems items ++ [']']
  | .object members => '{' :: compactMembers members ++ ['}']

def compactItems : List Json → List Char
  | [] => []
  | [item] => compact item
  | item :: rest => compact item ++ ',' :: ' ' :: compactItems rest

def compactMembers : List (CodeText × Json) → List Char
  | [] => []
  | [(name, value)] => textLiteral name ++ ':' :: ' ' :: compact value
  | (name, value) :: rest =>
    textLiteral name ++ ':' :: ' ' :: compact value ++ ',' :: ' ' :: compactMembers rest

end

def newLine (level : Nat) : List Char :=
  '\n' :: List.replicate (2 * level) ' '

mutual

def indented (level : Nat) : Json → List Char
  | .null => "null".toList
  | .bool b => if b then "true".toList else "false".toList
  | .int n => intText n
  | .float x => floatText x
  | .str t => textLiteral t
  | .array [] => ['[', ']']
  | .array (item :: items) =>
    '[' :: newLine (level + 1) ++ indented (level + 1) item ++ indentedItems (level + 1) items ++
      newLine level ++ [']']
  | .object [] => ['{', '}']
  | .object ((name, value) :: members) =>
    '{' :: newLine (level + 1) ++ textLiteral name ++ ':' :: ' ' :: indented (level + 1) value ++
      indentedMembers (level + 1) members ++ newLine level ++ ['}']

def indentedItems (level : Nat) : List Json → List Char
  | [] => []
  | item :: items => ',' :: newLine level ++ indented level item ++ indentedItems level items

def indentedMembers (level : Nat) : List (CodeText × Json) → List Char
  | [] => []
  | (name, value) :: members =>
    ',' :: newLine level ++ textLiteral name ++ ':' :: ' ' :: indented level value ++
      indentedMembers level members

end

end Gesture.Json
