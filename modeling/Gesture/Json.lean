import Gesture.Binary64.Decimal
import Gesture.CodeText

namespace Gesture

inductive Json where
  | null
  | bool (b : Bool)
  | int (n : Int)
  | float (x : Binary64)
  | str (t : CodeText)
  | array (items : List Json)
  | object (members : List (CodeText × Json))
  deriving Repr

namespace Json

def string (s : String) : Json :=
  .str s

def setMember (name : CodeText) (value : Json) : List (CodeText × Json) → List (CodeText × Json)
  | [] => [(name, value)]
  | (key, old) :: rest =>
    if key = name then (key, value) :: rest else (key, old) :: setMember name value rest

def member? (name : CodeText) (members : List (CodeText × Json)) : Option Json :=
  (members.find? (·.1 = name)).map (·.2)

def intText (n : Int) : List Char :=
  if n < 0 then '-' :: Binary64.digitsOf n.natAbs else Binary64.digitsOf n.natAbs

mutual

def literal : Json → List Char
  | .null => "None".toList
  | .bool b => if b then "True".toList else "False".toList
  | .int n => intText n
  | .float x => x.chars
  | .str t => t.quote
  | .array items => '[' :: literalItems items ++ [']']
  | .object members => '\x7b' :: literalMembers members ++ ['\x7d']

def literalItems : List Json → List Char
  | [] => []
  | [item] => literal item
  | item :: rest => literal item ++ ',' :: ' ' :: literalItems rest

def literalMembers : List (CodeText × Json) → List Char
  | [] => []
  | [(name, value)] => name.quote ++ ':' :: ' ' :: literal value
  | (name, value) :: rest =>
    name.quote ++ ':' :: ' ' :: literal value ++ ',' :: ' ' :: literalMembers rest

end

mutual

def depth : Json → Nat
  | .array items => depthItems items + 1
  | .object members => depthMembers members + 1
  | _ => 0

def depthItems : List Json → Nat
  | [] => 0
  | item :: rest => max item.depth (depthItems rest)

def depthMembers : List (CodeText × Json) → Nat
  | [] => 0
  | (_, value) :: rest => max value.depth (depthMembers rest)

end

def plain : Json → CodeText
  | .str t => t
  | v => v.literal.map .char

def isTruthy : Json → Bool
  | .null => false
  | .bool b => b
  | .int n => n != 0
  | .float x => x.isNonzero
  | .str t => !t.isEmpty
  | .array items => !items.isEmpty
  | .object members => !members.isEmpty

end Json

end Gesture
