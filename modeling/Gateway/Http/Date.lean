import Gateway.Text.Numeral

/-! Dates of messages. A moment is written with its day of the week, its date and its time of day in one of three
    ways, and is read as the seconds from the beginning of 1970. A date that there is not, or that falls on
    another day of the week, is none. Only the first of the three ways is ever written. -/

namespace Gateway.Http.Date

def months : List String := ["Jan", "Feb", "Mar", "Apr", "May", "Jun", "Jul", "Aug", "Sep", "Oct", "Nov", "Dec"]

/-- The days of the week from the one that 1970 began with. -/
def weekdays : List String := ["Thursday", "Friday", "Saturday", "Sunday", "Monday", "Tuesday", "Wednesday"]

structure Moment where
  /-- The number of the day in `weekdays`. -/
  weekday : Nat
  year : Nat
  /-- The number of the month, from zero. -/
  month : Nat
  day : Nat
  hour : Nat
  minute : Nat
  second : Nat
deriving DecidableEq, Repr

/-! ### Calendar -/

def isLeap (year : Nat) : Bool := year % 4 == 0 && (year % 100 != 0 || year % 400 == 0)

def monthLength (year month : Nat) : Nat :=
  if month = 1 then if isLeap year then 29 else 28
  else if [3, 5, 8, 10].contains month then 30
  else 31

/-- The days of all years before one. -/
def daysBefore (year : Nat) : Nat := 365 * year + (year + 3) / 4 - (year + 99) / 100 + (year + 399) / 400

/-- The days of the first so many months of a year. -/
def daysOfMonths (year : Nat) : Nat → Nat
  | 0 => 0
  | month + 1 => daysOfMonths year month + monthLength year month

namespace Moment

/-- The days from the beginning of 1970. -/
def days (m : Moment) : Nat :=
  daysBefore m.year - daysBefore 1970 + daysOfMonths m.year m.month + (m.day - 1)

def seconds (m : Moment) : Nat := ((m.days * 24 + m.hour) * 60 + m.minute) * 60 + m.second

def isReal (m : Moment) : Bool :=
  1970 ≤ m.year && m.year ≤ 9999 && m.month < 12 && 1 ≤ m.day && m.day ≤ monthLength m.year m.month &&
    m.hour < 24 && m.minute < 60 && m.second < 60 && m.days % 7 == m.weekday

end Moment

/-! ### Reading -/

/-- A number of as many digits as there are characters. -/
def number? (cs : List Char) : Option Nat := Text.numeral? 10 cs

/-- The number of a name in a list, or of its first three letters there. -/
def position? (names : List String) (cs : List Char) : Option Nat := names.findIdx? (·.toList == cs)

/-- A time of day, such as `08:49:37`. -/
def time? (cs : List Char) : Option (Nat × Nat × Nat) :=
  match cs with
  | [a, b, ':', c, d, ':', e, f] => do return (← number? [a, b], ← number? [c, d], ← number? [e, f])
  | _ => none

def shortDays : List String := weekdays.map fun day => String.ofList (day.toList.take 3)

/-- A date such as `Sun, 06 Nov 1994 08:49:37 GMT`. -/
def fixed? (cs : List Char) : Option Moment := do
  match cs.splitOn ' ' with
  | [weekday, day, month, year, time, ['G', 'M', 'T']] =>
    if weekday.length = 4 ∧ weekday.getLast? = some ',' ∧ day.length = 2 ∧ year.length = 4 then
      let (hour, minute, second) ← time? time
      return {
        weekday := ← position? shortDays (weekday.take 3), year := ← number? year, month := ← position? months month
        day := ← number? day, hour, minute, second }
    else none
  | _ => none

/-- A date such as `Sunday, 06-Nov-94 08:49:37 GMT`, of the years from 1970 to 2069. -/
def spelled? (cs : List Char) : Option Moment := do
  match cs.splitOn ' ' with
  | [weekday, date, time, ['G', 'M', 'T']] =>
    match date.splitOn '-' with
    | [day, month, year] =>
      if weekday.getLast? = some ',' ∧ day.length = 2 ∧ year.length = 2 then
        let (hour, minute, second) ← time? time
        let year ← number? year
        return {
          weekday := ← position? weekdays weekday.dropLast, year := if year < 70 then year + 2000 else year + 1900
          month := ← position? months month, day := ← number? day, hour, minute, second }
      else none
    | _ => none
  | _ => none

/-- A date such as `Sun Nov  6 08:49:37 1994`. -/
def plain? (cs : List Char) : Option Moment := do
  let parts := (cs.splitOn ' ').filter (· ≠ [])
  match parts with
  | [weekday, month, day, time, year] =>
    if cs.length = 24 ∧ year.length = 4 then
      let (hour, minute, second) ← time? time
      return {
        weekday := ← position? shortDays weekday, year := ← number? year, month := ← position? months month
        day := ← number? day, hour, minute, second }
    else none
  | _ => none

/-- The seconds from the beginning of 1970 to the moment that a text names. -/
def ofText? (text : String) : Option Nat :=
  let cs := text.toList
  (((fixed? cs).or (spelled? cs)).or (plain? cs)).bind fun m => if m.isReal then some m.seconds else none

/-! ### Writing -/

/-- The moment so many seconds from the beginning of 1970. -/
def Moment.ofSeconds (n : Nat) : Moment :=
  let day := n / 86400
  let before (year : Nat) : Nat := daysBefore year - daysBefore 1970
  let year := 1969 + ((List.range (day / 365 + 1)).filter fun k => before (1970 + k) ≤ day).length
  let left := day - before year
  let month := ((List.range 11).filter fun k => daysOfMonths year (k + 1) ≤ left).length
  {
    weekday := day % 7, year, month, day := left - daysOfMonths year month + 1
    hour := n / 3600 % 24, minute := n / 60 % 60, second := n % 60 }

def twoDigits (n : Nat) : String := if n < 10 then s!"0{n}" else s!"{n}"

def Moment.time (m : Moment) : String := s!"{twoDigits m.hour}:{twoDigits m.minute}:{twoDigits m.second}"

/-- The date of a number of seconds from the beginning of 1970, such as `Sun, 06 Nov 1994 08:49:37 GMT`. -/
def text (n : Nat) : String :=
  let m := Moment.ofSeconds n
  let weekday := shortDays[m.weekday]?.getD ""
  let month := months[m.month]?.getD ""
  s!"{weekday}, {twoDigits m.day} {month} {m.year} {m.time} GMT"

/-- The moment so many seconds and millionth parts of a second from the beginning of 1970, the largest part first. -/
def instant (n millionths : Nat) : String :=
  let m := Moment.ofSeconds n
  let digits := toString (1000000 + millionths % 1000000)
  s!"{m.year}-{twoDigits (m.month + 1)}-{twoDigits m.day}T{m.time}.{digits.drop 1}Z"

end Gateway.Http.Date
