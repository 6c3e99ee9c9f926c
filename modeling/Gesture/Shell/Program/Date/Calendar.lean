
namespace Gesture.Shell.Program.Date

structure Day where
  year : Int
  month : Nat
  day : Nat
  deriving DecidableEq, Repr

def isLeap (year : Int) : Bool :=
  year % 4 == 0 && (year % 100 != 0 || year % 400 == 0)

def monthLength (year : Int) (month : Nat) : Nat :=
  match month with
  | 2 => if isLeap year then 29 else 28
  | 4 | 6 | 9 | 11 => 30
  | _ => 31

/-- The number of a day of a month; the day on which clocks start has number zero. Years start in
    March here, so that the leap day is their last. -/
def number (year : Int) (month : Nat) (day : Int) : Int :=
  let year := if month ≤ 2 then year - 1 else year
  let era := year / 400
  let ofEra := year - era * 400
  let month : Int := if month ≤ 2 then month + 9 else month - 3
  let ofYear := (153 * month + 2) / 5 + day - 1
  era * 146097 + (ofEra * 365 + ofEra / 4 - ofEra / 100 + ofYear) - 719468

def Day.number (d : Day) : Int :=
  Date.number d.year d.month d.day

def dayOf (number : Int) : Day :=
  let days := number + 719468
  let era := days / 146097
  let ofEra := days - era * 146097
  let year := (ofEra - ofEra / 1460 + ofEra / 36524 - ofEra / 146096) / 365
  let ofYear := ofEra - (365 * year + year / 4 - year / 100)
  let month := (5 * ofYear + 2) / 153
  let day := ofYear - (153 * month + 2) / 5 + 1
  let year := year + era * 400
  if month < 10 then ⟨year, (month + 3).toNat, day.toNat⟩
  else ⟨year + 1, (month - 9).toNat, day.toNat⟩

def weekdayOf (number : Int) : Nat :=
  ((number + 4) % 7).toNat

def normalNumber (year month day : Int) : Int :=
  let months := month - 1
  Date.number (year + months / 12) ((months % 12).toNat + 1) 1 + day - 1

def dayNames : List String :=
  ["Sunday", "Monday", "Tuesday", "Wednesday", "Thursday", "Friday", "Saturday"]

def monthNames : List String :=
  ["January", "February", "March", "April", "May", "June", "July", "August", "September", "October",
    "November", "December"]

structure Moment where
  seconds : Int
  nanoseconds : Nat := 0
  ahead : Int := 0
  zone : String := "UTC"
  deriving DecidableEq, Repr

def Moment.local (m : Moment) : Int :=
  m.seconds + m.ahead

def Moment.dayNumber (m : Moment) : Int :=
  m.local / 86400

def Moment.clock (m : Moment) : Nat :=
  (m.local % 86400).toNat

end Gesture.Shell.Program.Date
