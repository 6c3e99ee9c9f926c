import Gesture.Shell.Program.Date.Calendar
import Gesture.Shell.Syntax

namespace Gesture.Shell.Program.Date

inductive TimeUnit where
  | year
  | month
  | day
  | hour
  | minute
  | second
  deriving DecidableEq, Repr

structure Digits where
  value : Int
  count : Nat
  isNegative : Bool := false
  deriving DecidableEq, Repr

inductive Token where
  | number (n : Digits)
  | signedNumber (n : Digits)
  | decimal (isSigned : Bool) (nanoseconds : Int)
  | month (n : Nat)
  | day (n : Nat)
  | ordinal (n : Int)
  | unit (u : TimeUnit) (count : Int)
  | dayShift (n : Int)
  | ago (sign : Int)
  | half (afternoon : Bool)
  | zone (minutes : Int) (summer : Bool)
  | summer
  | letterT
  | sign (c : Char)
  | unknown
  deriving DecidableEq, Repr

def zones : List (String × Int × Bool) :=
  [("GMT", 0, false), ("UT", 0, false), ("UTC", 0, false), ("WET", 0, false), ("WEST", 0, true),
    ("BST", 0, true), ("ART", -180, false), ("BRT", -180, false), ("BRST", -180, true),
    ("NST", -210, false), ("NDT", -210, true), ("AST", -240, false), ("ADT", -240, true),
    ("CLT", -240, false), ("CLST", -240, true), ("EST", -300, false), ("EDT", -300, true),
    ("CST", -360, false), ("CDT", -360, true), ("MST", -420, false), ("MDT", -420, true),
    ("PST", -480, false), ("PDT", -480, true), ("AKST", -540, false), ("AKDT", -540, true),
    ("HST", -600, false), ("HAST", -600, false), ("HADT", -600, true), ("SST", -720, false),
    ("WAT", 60, false), ("CET", 60, false), ("CEST", 60, true), ("MET", 60, false),
    ("MEZ", 60, false), ("MEST", 60, true), ("MESZ", 60, true), ("EET", 120, false),
    ("EEST", 120, true), ("CAT", 120, false), ("SAST", 120, false), ("EAT", 180, false),
    ("MSK", 180, false), ("MSD", 180, true), ("IST", 330, false), ("SGT", 480, false),
    ("KST", 540, false), ("JST", 540, false), ("GST", 600, false), ("NZST", 720, false),
    ("NZDT", 720, true)]

def units : List (String × TimeUnit × Int) :=
  [("YEAR", .year, 1), ("MONTH", .month, 1), ("FORTNIGHT", .day, 14), ("WEEK", .day, 7),
    ("DAY", .day, 1), ("HOUR", .hour, 1), ("MINUTE", .minute, 1), ("MIN", .minute, 1),
    ("SECOND", .second, 1), ("SEC", .second, 1)]

def otherWords : List (String × Token) :=
  [("TOMORROW", .dayShift 1), ("YESTERDAY", .dayShift (-1)), ("TODAY", .dayShift 0),
    ("NOW", .dayShift 0), ("LAST", .ordinal (-1)), ("THIS", .ordinal 0), ("NEXT", .ordinal 1),
    ("FIRST", .ordinal 1), ("THIRD", .ordinal 3), ("FOURTH", .ordinal 4), ("FIFTH", .ordinal 5),
    ("SIXTH", .ordinal 6), ("SEVENTH", .ordinal 7), ("EIGHTH", .ordinal 8), ("NINTH", .ordinal 9),
    ("TENTH", .ordinal 10), ("ELEVENTH", .ordinal 11), ("TWELFTH", .ordinal 12), ("AGO", .ago (-1)),
    ("HENCE", .ago 1)]

def letterZones : List (Char × Int) :=
  [('A', 1), ('B', 2), ('C', 3), ('D', 4), ('E', 5), ('F', 6), ('G', 7), ('H', 8), ('I', 9),
    ('K', 10), ('L', 11), ('M', 12), ('N', -1), ('O', -2), ('P', -3), ('Q', -4), ('R', -5),
    ('S', -6), ('U', -8), ('V', -9), ('W', -10), ('X', -11), ('Y', -12), ('Z', 0)]

def nameNumber? (names : List String) (word : List Char) : Option Nat :=
  let isShort := word.length == 3 || (word.length == 4 && word.getLast? == some '.')
  names.findIdx? fun name =>
    let name := name.toList.map Char.toUpper
    if isShort then name.take 3 == word.take 3 else name == word

def months : List String :=
  monthNames

def monthNumber? (word : List Char) : Option Nat :=
  if word == "SEPT".toList then some 9 else (nameNumber? months word).map (· + 1)

def dayNumber? (word : List Char) : Option Nat :=
  match String.ofList word with
  | "TUES" => some 2
  | "WEDNES" => some 3
  | "THUR" | "THURS" => some 4
  | _ => nameNumber? dayNames word

def zone? (word : List Char) : Option Token :=
  (zones.lookup (String.ofList word)).map fun (minutes, summer) => .zone minutes summer

def wordToken (word : List Char) : Token :=
  let text := String.ofList word
  let unit? (word : List Char) : Option Token :=
    (units.lookup (String.ofList word)).map fun (u, count) => .unit u count
  let plural : Option Token :=
    if word.getLast? == some 'S' then unit? word.dropLast else none
  let letter : Option Token := match word with
    | ['T'] => some .letterT
    | [c] => (letterZones.lookup c).map fun hours => .zone (60 * hours) false
    | _ => none
  let half : Option Token := match text with
    | "AM" | "A.M." => some (.half false)
    | "PM" | "P.M." => some (.half true)
    | _ => none
  let summer : Option Token := if text == "DST" then some .summer else none
  let meanings := [half, (monthNumber? word).map .month, (dayNumber? word).map .day, zone? word,
    summer, unit? word, plural, otherWords.lookup text, letter]
  match meanings.findSome? id with
  | some t => t
  | none =>
    let plain := word.filter (· != '.')
    if plain.length < word.length then (zone? plain).getD .unknown else .unknown

def isSpace (c : Char) : Bool :=
  c == ' ' || (decide ('\t' ≤ c) && decide (c ≤ '\r'))

def afterComment : Nat → List Char → Option (List Char)
  | _, [] => none
  | depth, c :: rest =>
    if c == '(' then afterComment (depth + 1) rest
    else if c == ')' then if depth ≤ 1 then some rest else afterComment (depth - 1) rest
    else afterComment depth rest

def valueOf (digits : List Char) : Nat :=
  digits.foldl (fun n c => 10 * n + (c.toNat - 48)) 0

def numberToken (isSigned negative : Bool) (text : List Char) : Token × List Char :=
  let digits := text.takeWhile Char.isDigit
  let value := valueOf digits
  let withSign (n : Int) : Int := if negative then -n else n
  let rest := text.drop digits.length
  if 9223372036854775807 < value then (.unknown, rest)
  else
    let whole : Token × List Char :=
      let n : Digits := ⟨withSign value, digits.length, negative⟩
      (if isSigned then .signedNumber n else .number n, rest)
    match rest with
    | c :: d :: _ =>
      if (c == '.' || c == ',') && d.isDigit then
        let parts := (rest.drop 1).takeWhile Char.isDigit
        let kept := parts.take 9
        let small := valueOf kept * Nat.pow 10 (9 - kept.length)
        /- What is beyond the last digit counts downwards. -/
        let more := negative && (parts.drop 9).any (· != '0')
        let total := withSign ((value * 1000000000 + small : Nat)) - (if more then 1 else 0)
        (.decimal isSigned total, rest.drop (parts.length + 1))
      else whole
    | _ => whole

def tokens : Nat → List Char → List Token
  | 0, _ => []
  | _ + 1, [] => []
  | limit + 1, c :: rest =>
    if isSpace c then tokens limit rest
    else if c.isDigit then
      let (t, after) := numberToken false false (c :: rest)
      t :: tokens limit after
    else if c == '-' || c == '+' then
      let digits := rest.dropWhile isSpace
      match digits with
      | d :: _ =>
        if d.isDigit then
          let (t, after) := numberToken true (c == '-') digits
          t :: tokens limit after
        else tokens limit digits
      | [] => []
    else if c.isAlpha then
      let word := (c :: rest).takeWhile fun d => d.isAlpha || d == '.'
      wordToken (word.map Char.toUpper) :: tokens limit (rest.drop (word.length - 1))
    else if c == '(' then
      match afterComment 1 rest with
      | some after => tokens limit after
      | none => []
    else .sign c :: tokens limit rest

end Gesture.Shell.Program.Date
