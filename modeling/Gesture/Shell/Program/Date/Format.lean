import Gesture.Shell.Program.Date.Calendar
import Gesture.Shell.Syntax

namespace Gesture.Shell.Program.Date

inductive Field where
  | text (t : String)
  | number (n : Int) (width : Nat) (fill : Char)
  | yearly (n : Int) (width : Nat)
  | fraction (nanoseconds : Nat)
  | offset (seconds : Int) (colons : Nat)
  | nested (format : String)

/-- The year that a week belongs to, and the number of the week, which has most of its days in that
    year. -/
def week (year : Int) (ofYear weekday : Nat) : Int × Nat :=
  let length (y : Int) : Nat := if isLeap y then 366 else 365
  let fromMonday := (weekday + 6) % 7
  /- The number of the day in the year of the Thursday of its week. -/
  let thursday : Int := (ofYear : Int) - fromMonday + 3
  if thursday < 0 then
    let before := year - 1
    (before, ((thursday + length before) / 7).toNat + 1)
  else if (length year : Int) ≤ thursday then (year + 1, 1)
  else (year, (thursday / 7).toNat + 1)

def field? (m : Moment) (letter : Char) : Option Field :=
  let number := m.dayNumber
  let d := dayOf number
  let clock := m.clock
  let weekday := weekdayOf number
  let ofYear := (number - Date.number d.year 1 1).toNat
  let hour := clock / 3600
  let minute := clock / 60 % 60
  let hour12 := if hour % 12 = 0 then 12 else hour % 12
  let two (n : Nat) : Option Field := some (.number n 2 '0')
  let blank (n : Nat) : Option Field := some (.number n 2 ' ')
  let dayName := dayNames.getD weekday ""
  let monthName := monthNames.getD (d.month - 1) ""
  let short (s : String) : Option Field := some (.text (String.ofList (s.toList.take 3)))
  match letter with
  | 'Y' => some (.yearly d.year 4)
  | 'm' => two d.month
  | 'd' => two d.day
  | 'H' => two hour
  | 'M' => two minute
  | 'S' => two (clock % 60)
  | 's' => some (.number m.seconds 1 '0')
  | 'F' => some (.nested "%+4Y-%m-%d")
  | 'T' | 'X' => some (.nested "%H:%M:%S")
  | 'R' => some (.nested "%H:%M")
  | 'D' | 'x' => some (.nested "%m/%d/%y")
  | 'c' => some (.nested "%a %b %e %H:%M:%S %Y")
  | 'r' => some (.nested "%I:%M:%S %p")
  | 'y' => two (d.year % 100).toNat
  | 'C' => some (.yearly (d.year / 100) 2)
  | 'j' => some (.number (ofYear + 1) 3 '0')
  | 'a' => short dayName
  | 'A' => some (.text dayName)
  | 'b' | 'h' => short monthName
  | 'B' => some (.text monthName)
  | 'e' => blank d.day
  | 'k' => blank hour
  | 'l' => blank hour12
  | 'I' => two hour12
  | 'p' => some (.text (if hour < 12 then "AM" else "PM"))
  | 'P' => some (.text (if hour < 12 then "am" else "pm"))
  | 'Z' => some (.text m.zone)
  | 'z' => some (.offset m.ahead 0)
  | 'u' => some (.number (if weekday = 0 then 7 else weekday : Nat) 1 '0')
  | 'w' => some (.number weekday 1 '0')
  | 'q' => some (.number ((d.month - 1) / 3 + 1 : Nat) 1 '0')
  | 'U' => two ((ofYear + 7 - weekday) / 7)
  | 'W' => two ((ofYear + 7 - (weekday + 6) % 7) / 7)
  | 'V' => two (week d.year ofYear weekday).2
  | 'G' => some (.yearly (week d.year ofYear weekday).1 4)
  | 'g' => two ((week d.year ofYear weekday).1 % 100).toNat
  | 'N' => some (.fraction m.nanoseconds)
  | 'n' => some (.text "\n")
  | 't' => some (.text "\t")
  | '%' => some (.text "%")
  | _ => none

structure Shape where
  fill : Option Char := none
  upper : Bool := false
  turned : Bool := false
  width : Option Nat := none
  colons : Nat := 0

def filled (fill : Char) (width : Nat) (text : List Char) : List Char :=
  List.replicate (width - text.length) fill ++ text

def padded (fill : Char) (width : Nat) (sign digits : List Char) : List Char :=
  match fill with
  | '-' => sign ++ digits
  | '_' | ' ' => filled ' ' width (sign ++ digits)
  | _ => sign ++ filled '0' (width - sign.length) digits

def signed (s : Shape) (n : Int) (width : Nat) (usual : Char) : List Char :=
  padded (s.fill.getD usual) (s.width.getD width) (if n < 0 then ['-'] else [])
    (toString n.natAbs).toList

def yearly (s : Shape) (n : Int) (width : Nat) : List Char :=
  let isWide := width < s.width.getD width || (Nat.pow 10 width : Nat) ≤ n
  let sign := if n < 0 then ['-'] else if s.fill == some '+' && isWide then ['+'] else []
  padded (s.fill.getD '0') (s.width.getD width) sign (toString n.natAbs).toList

def fraction (s : Shape) (nanoseconds : Nat) : List Char :=
  let width := match s.width with
    | some (n + 1) => n + 1
    | _ => 9
  let digits := (filled '0' 9 (toString nanoseconds).toList).take width
  let short := (digits.reverse.dropWhile (· == '0')).reverse
  let short := if short.isEmpty then ['0'] else short
  match s.fill with
  | some '_' => short ++ List.replicate (width - short.length) ' '
  | _ => short ++ List.replicate (width - short.length) '0'

def offset (s : Shape) (seconds : Int) : List Char :=
  let n := seconds.natAbs
  let sign := [if seconds < 0 then '-' else '+']
  let two (n : Nat) : List Char := filled '0' 2 (toString n).toList
  let hours := (toString (n / 3600)).toList
  let minutes := two (n / 60 % 60)
  let (digits, width) : List Char × Nat := match s.colons with
    | 0 => ((toString (n / 3600 * 100 + n / 60 % 60)).toList, 5)
    | 1 => (hours ++ ':' :: minutes, 6)
    | 2 => (hours ++ ':' :: (minutes ++ ':' :: two (n % 60)), 9)
    | _ =>
      if n % 3600 = 0 then (hours, 3)
      else if n % 60 = 0 then (hours ++ ':' :: minutes, 6)
      else (hours ++ ':' :: (minutes ++ ':' :: two (n % 60)), 9)
  padded (s.fill.getD '0') (s.width.getD width) sign digits

def shaped (s : Shape) (letter : Char) (text : List Char) : List Char :=
  let cased :=
    if s.upper then text.map Char.toUpper
    else if s.turned then
      if letter == 'p' || letter == 'Z' then text.map Char.toLower else text.map Char.toUpper
    else text
  match s.fill with
  | some '-' => cased
  | some '0' | some '+' => filled '0' (s.width.getD 0) cased
  | _ => filled ' ' (s.width.getD 0) cased

def widthOf (digits : List Char) : Nat :=
  min (digits.foldl (fun n d => 10 * n + (d.toNat - 48)) 0) 9999

/-- The flags, the width and the colons before a letter, for a text of at most `limit`
    characters. -/
def shape : Nat → Shape → Bytes → Shape × Bytes
  | 0, s, text => (s, text)
  | limit + 1, s, text =>
    match text with
    | '^' :: rest => shape limit { s with upper := true } rest
    | '#' :: rest => shape limit { s with turned := true } rest
    | c :: rest =>
      if c == '-' || c == '_' || c == '0' || c == '+' then
        shape limit { s with fill := some c } rest
      else
        let digits := text.takeWhile Char.isDigit
        let s := if digits.isEmpty then s else { s with width := some (widthOf digits) }
        let rest := text.drop digits.length
        let colons := rest.takeWhile (· == ':')
        ({ s with colons := colons.length }, rest.drop colons.length)
    | [] => (s, [])

/-- A format with its fields put in. Fields of nested formats are one level deeper; `limit` bounds
    the length of the format. -/
def formattedAt (m : Moment) : Nat → Nat → Bytes → Bytes
  | 0, _, text => text
  | _ + 1, 0, _ => []
  | depth + 1, limit + 1, text =>
    match text with
    | '%' :: rest =>
      let (s, after) := shape rest.length {} rest
      let after := match after with
        | 'E' :: c :: more => if "cCxXyY".toList.contains c then c :: more else after
        | 'O' :: c :: more => if "deHImMSuUVwWy".toList.contains c then c :: more else after
        | _ => after
      match after with
      | [] => text
      | letter :: more =>
        let whole := text.take (text.length - more.length)
        let next := formattedAt m (depth + 1) limit more
        let unknown := shaped { s with upper := false, turned := false } letter whole ++ next
        if s.colons ≠ 0 && letter != 'z' then unknown
        else
          match field? m letter with
          | none => unknown
          | some (.text t) => shaped s letter t.toList ++ next
          | some (.number n width fill) => signed s n width fill ++ next
          | some (.yearly n width) => yearly s n width ++ next
          | some (.fraction n) => fraction s n ++ next
          | some (.offset n _) => offset s n ++ next
          | some (.nested format) =>
            shaped s letter (formattedAt m depth format.length format.toList) ++ next
    | c :: rest => c :: formattedAt m (depth + 1) limit rest
    | [] => []

def formatted (m : Moment) (format : Bytes) : Bytes :=
  formattedAt m 2 format.length format

end Gesture.Shell.Program.Date
