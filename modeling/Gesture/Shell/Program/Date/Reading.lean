import Gesture.Shell.Program.Date.Token

namespace Gesture.Shell.Program.Date

inductive Meridian where
  | morning
  | afternoon
  | whole
  deriving DecidableEq, Repr

structure Shift where
  year : Int := 0
  month : Int := 0
  day : Int := 0
  hour : Int := 0
  minute : Int := 0
  nanosecond : Int := 0
  deriving DecidableEq, Repr

namespace Shift

def ofUnit (u : TimeUnit) (n : Int) : Shift :=
  match u with
  | .year => { year := n }
  | .month => { month := n }
  | .day => { day := n }
  | .hour => { hour := n }
  | .minute => { minute := n }
  | .second => { nanosecond := n * 1000000000 }

def add (a b : Shift) (factor : Int) : Shift :=
  ⟨a.year + factor * b.year, a.month + factor * b.month, a.day + factor * b.day,
    a.hour + factor * b.hour, a.minute + factor * b.minute, a.nanosecond + factor * b.nanosecond⟩

end Shift

structure Parts where
  year : Digits := { value := 0, count := 0 }
  month : Int := 0
  day : Int := 0
  hour : Int := 0
  minute : Int := 0
  nanosecond : Int := 0
  meridian : Meridian := .whole
  weekday : Nat := 0
  ordinal : Int := 0
  shift : Shift := {}
  zone : Int := 0
  hasYear : Bool := false
  dates : Nat := 0
  times : Nat := 0
  days : Nat := 0
  zones : Nat := 0
  summers : Nat := 0
  shifts : Bool := false

namespace Parts

def setDate (p : Parts) (year : Option Digits) (month day : Int) : Parts :=
  { p with dates := p.dates + 1, year := year.getD p.year, month, day }

def setTime (p : Parts) (hour minute nanosecond : Int) (meridian : Meridian) : Parts :=
  { p with times := p.times + 1, hour, minute, nanosecond, meridian }

def move (p : Parts) (s : Shift) (factor : Int) : Parts :=
  { p with shift := p.shift.add s factor, shifts := true }

def setWeekday (p : Parts) (ordinal : Int) (weekday : Nat) : Parts :=
  { p with days := p.days + 1, ordinal, weekday }

def setZone? (p : Parts) (n : Digits) (minutes : Option Digits) : Option Parts := do
  let total : Int := match minutes with
    | none =>
      let value := if n.count ≤ 2 then n.value * 100 else n.value
      value.tdiv 100 * 60 + value.tmod 100
    | some m => n.value * 60 + (if n.isNegative then -m.value else m.value)
  if total.natAbs ≤ 24 * 60 then some { p with zone := total * 60 } else none

def setNumber (p : Parts) (n : Digits) : Parts :=
  if p.dates ≠ 0 && p.year.count = 0 && !p.shifts && (p.times ≠ 0 || 2 < n.count) then
    { p with hasYear := true, year := n }
  else if 4 < n.count then
    p.setDate (some { value := n.value / 10000, count := n.count - 4 }) (n.value / 100 % 100) (n.value % 100)
  else if n.count ≤ 2 then p.setTime n.value 0 0 .whole
  else p.setTime (n.value / 100) (n.value % 100) 0 .whole

end Parts

abbrev Tokens := List Token

def seconds? : Token → Option Int
  | .number n => some (n.value * 1000000000)
  | .decimal false n => some n
  | _ => none

def timeEnd (p : Parts) (hour minute nanosecond : Int) (rest : Tokens) : Option (Parts × Tokens) :=
  match rest with
  | .half afternoon :: rest =>
    let meridian := if afternoon then Meridian.afternoon else .morning
    some (p.setTime hour minute nanosecond meridian, rest)
  | .signedNumber z :: .sign ':' :: rest =>
    match rest with
    | .number m :: rest => do
      let p ← (p.setTime hour minute nanosecond .whole).setZone? z (some m)
      return ({ p with zones := p.zones + 1 }, rest)
    | _ => none
  | .signedNumber z :: rest => do
    let p ← (p.setTime hour minute nanosecond .whole).setZone? z none
    return ({ p with zones := p.zones + 1 }, rest)
  | rest => some (p.setTime hour minute nanosecond .whole, rest)

def time (p : Parts) (hour : Int) (rest : Tokens) : Option (Parts × Tokens) :=
  match rest with
  | .number minute :: .sign ':' :: s :: rest => do
    timeEnd p hour minute.value (← seconds? s) rest
  | .number minute :: rest => timeEnd p hour minute.value 0 rest
  | _ => none

def shifted (p : Parts) (s : Shift) (rest : Tokens) : Option (Parts × Tokens) :=
  match rest with
  | .ago sign :: rest => some (p.move s sign, rest)
  | rest => some (p.move s 1, rest)

def signedShift? (n : Digits) : Tokens → Option (Shift × Tokens)
  | .unit u count :: rest => some (Shift.ofUnit u (n.value * count), rest)
  | _ => none

def afterNumber (p : Parts) (n : Digits) (rest : Tokens) : Option (Parts × Tokens) :=
  match rest with
  | .sign ':' :: rest => time p n.value rest
  | .half afternoon :: rest =>
    some (p.setTime n.value 0 0 (if afternoon then .afternoon else .morning), rest)
  | .sign '/' :: .number second :: .sign '/' :: rest =>
    match rest with
    | .number third :: rest =>
      some (if 4 ≤ n.count then p.setDate (some n) second.value third.value
        else p.setDate (some third) n.value second.value, rest)
    | _ => none
  | .sign '/' :: .number second :: rest => some (p.setDate none n.value second.value, rest)
  | .signedNumber month :: .signedNumber day :: rest => do
    let p := p.setDate (some n) (-month.value) (-day.value)
    match rest with
    | .letterT :: .number hour :: .sign ':' :: rest =>
      /- After the letter, no half of a day can be named. -/
      match ← time p hour.value rest with
      | (p, rest) => if p.meridian = .whole then some (p, rest) else none
    | .letterT :: .number hour :: .signedNumber z :: rest =>
      timeEnd p hour.value 0 0 (.signedNumber z :: rest)
    | .letterT :: _ => none
    | rest => some (p, rest)
  | .signedNumber s :: .unit u count :: rest =>
    some ((p.setNumber n).move (Shift.ofUnit u (s.value * count)) 1, rest)
  | .signedNumber s :: rest => timeEnd p n.value 0 0 (.signedNumber s :: rest)
  | .month month :: .signedNumber year :: rest =>
    some (p.setDate (some { value := -year.value, count := year.count }) month n.value, rest)
  | .month month :: .number year :: rest => some (p.setDate (some year) month n.value, rest)
  | .month month :: rest => some (p.setDate none month n.value, rest)
  | .day weekday :: rest => some (p.setWeekday n.value weekday, rest)
  | .unit u count :: rest => shifted p (Shift.ofUnit u (n.value * count)) rest
  | rest => some (p.setNumber n, rest)

def afterMonth (p : Parts) (month : Nat) (rest : Tokens) : Option (Parts × Tokens) :=
  match rest with
  | .signedNumber day :: .signedNumber year :: rest =>
    some (p.setDate (some { value := -year.value, count := year.count }) month (-day.value), rest)
  | .number day :: .sign ',' :: rest =>
    match rest with
    | .number year :: rest => some (p.setDate (some year) month day.value, rest)
    | _ => none
  | .number day :: rest => some (p.setDate none month day.value, rest)
  | _ => none

def afterZone (p : Parts) (seconds : Int) (rest : Tokens) : Option (Parts × Tokens) :=
  let p := { p with zones := p.zones + 1, zone := seconds }
  match rest with
  | .summer :: rest => some ({ p with zone := seconds + 3600 }, rest)
  | .signedNumber n :: .unit u count :: rest =>
    some (p.move (Shift.ofUnit u (n.value * count)) 1, rest)
  | .signedNumber n :: .sign ':' :: rest =>
    match rest with
    | .number m :: rest => do
      let q ← p.setZone? n (some m)
      return ({ q with zone := seconds + q.zone }, rest)
    | _ => none
  | .signedNumber n :: rest => do
    let q ← p.setZone? n none
    return ({ q with zone := seconds + q.zone }, rest)
  | rest => some (p, rest)

def item (p : Parts) (t : Token) (rest : Tokens) : Option (Parts × Tokens) :=
  match t with
  | .number n => afterNumber p n rest
  | .signedNumber n => do
    let (s, rest) ← signedShift? n rest
    shifted p s rest
  | .decimal _ n =>
    match rest with
    | .unit .second _ :: rest => shifted p { nanosecond := n } rest
    | _ => none
  | .month month => afterMonth p month rest
  | .day weekday =>
    match rest with
    | .sign ',' :: rest => some (p.setWeekday 0 weekday, rest)
    | rest => some (p.setWeekday 0 weekday, rest)
  | .ordinal n =>
    match rest with
    | .day weekday :: rest => some (p.setWeekday n weekday, rest)
    | .unit u count :: rest => shifted p (Shift.ofUnit u (n * count)) rest
    | _ => none
  | .unit u count => shifted p (Shift.ofUnit u count) rest
  | .dayShift n => some (p.move { day := n } 1, rest)
  | .zone minutes summer =>
    if summer then
      some ({ p with zones := p.zones + 1, zone := (minutes + 60) * 60 }, rest)
    else afterZone p (minutes * 60) rest
  | .letterT => afterZone p (-7 * 3600) rest
  | .summer | .half _ | .ago _ | .sign _ | .unknown => none

def items : Nat → Parts → Tokens → Option Parts
  | _, p, [] => some p
  | 0, _, _ => none
  | limit + 1, p, t :: rest => do
    let (p, rest) ← item p t rest
    items limit p rest

def fullYear (year : Digits) : Int :=
  if year.count = 2 && 0 ≤ year.value then year.value + (if year.value < 69 then 2000 else 1900)
  else year.value

def Parts.hour? (p : Parts) : Option Int :=
  let within := decide (0 < p.hour) && decide (p.hour < 12)
  match p.meridian with
  | .whole => if 0 ≤ p.hour && p.hour < 24 then some p.hour else none
  | .morning => if within then some p.hour else if p.hour = 12 then some 0 else none
  | .afternoon => if within then some (p.hour + 12) else if p.hour = 12 then some 12 else none

def Parts.moment? (p : Parts) (now : Moment) : Option Int := do
  if 1 < p.times || 1 < p.dates || 1 < p.days || 1 < p.zones || 1 < p.summers then none
  let today := dayOf now.dayNumber
  let (hour, minute, nanosecond) : Int × Int × Int ←
    if p.times ≠ 0 then do pure (← p.hour?, p.minute, p.nanosecond)
    else if p.shifts && p.dates = 0 && p.days = 0 then
      pure ((now.clock / 3600 : Nat), (now.clock / 60 % 60 : Nat),
        (now.clock % 60 : Nat) * 1000000000 + now.nanoseconds)
    else pure (0, 0, 0)
  let hasYear := p.hasYear || (p.dates ≠ 0 && p.year.count ≠ 0)
  let year := if hasYear then fullYear p.year else today.year
  let (month, day) : Int × Int :=
    if p.dates ≠ 0 then (p.month, p.day) else (today.month, today.day)
  if month < 1 || 12 < month || day < 1 || (monthLength year month.toNat : Int) < day then none
  if minute < 0 || 59 < minute || nanosecond < 0 || 60000000000 ≤ nanosecond then none
  /- A day of the week moves the day forward, to the next one of that name. -/
  let start := number year month.toNat day
  let start :=
    if p.days ≠ 0 && p.dates = 0 then
      let current := weekdayOf start
      let steps : Int := p.ordinal - (if 0 < p.ordinal && current != p.weekday then 1 else 0)
      start + ((p.weekday : Int) - current + 7) % 7 + 7 * steps
    else start
  let d := dayOf start
  let s := p.shift
  let moved :=
    if s.year = 0 && s.month = 0 && s.day = 0 then start
    else normalNumber (d.year + s.year) (d.month + s.month) (d.day + s.day)
  let clock := hour * 3600 + minute * 60 - (if p.zones ≠ 0 then p.zone else now.ahead)
  return (moved * 86400 + clock + s.hour * 3600 + s.minute * 60) * 1000000000 + nanosecond +
    s.nanosecond

def moment? (now : Moment) (text : Bytes) : Option Int := do
  let text := text.dropWhile isSpace
  match text with
  | '@' :: rest =>
    match tokens rest.length rest with
    | [.number n] | [.signedNumber n] => some (n.value * 1000000000)
    | [.decimal _ n] => some n
    | _ => none
  | text =>
    let ts := tokens text.length text
    (← items (ts.length + 1) {} ts).moment? now

end Gesture.Shell.Program.Date
