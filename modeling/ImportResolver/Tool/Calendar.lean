import ImportResolver.Tool.Arguments
/- Days and times of day, in the calendar that has leap years but for three of four centuries. -/
namespace ImportResolver.Tool

open Shell

/-- A moment as it is written, in the time of Greenwich. -/
structure Moment where
  year : Int
  month : Nat
  day : Nat
  hour : Nat := 0
  minute : Nat := 0
  second : Nat := 0
  deriving DecidableEq

namespace Moment

/-- How many days after the first of January 1970 a day is. Years are counted from March on, so
that the day that leap years add is their last one. -/
def days (m : Moment) : Int :=
  let year := if m.month ≤ 2 then m.year - 1 else m.year
  let month := (m.month + 9) % 12
  let within : Nat := (153 * month + 2) / 5 + m.day - 1
  year * 365 + year.fdiv 4 - year.fdiv 100 + year.fdiv 400 + within - 719468

def seconds (m : Moment) : Int := m.days * 86400 + (m.hour * 3600 + m.minute * 60 + m.second : Nat)

def ofSeconds (s : Int) : Moment :=
  let time := (s.fmod 86400).toNat
  let z := s.fdiv 86400 + 719468
  let era := z.fdiv 146097
  let day := (z - era * 146097).toNat
  let year := (day - day / 1460 + day / 36524 - day / 146096) / 365
  let within := day - (365 * year + year / 4 - year / 100)
  let month := (5 * within + 2) / 153
  { year := year + era * 400 + (if month < 10 then 0 else 1)
    month := if month < 10 then month + 3 else month - 9
    day := within - (153 * month + 2) / 5 + 1
    hour := time / 3600
    minute := time / 60 % 60
    second := time % 60 }

def weekday (m : Moment) : Nat := ((m.days + 4).fmod 7).toNat

def dayOfYear (m : Moment) : Nat :=
  (m.days - ({ year := m.year, month := 1, day := 1 } : Moment).days + 1).toNat

def isLeap (year : Int) : Bool := year % 4 = 0 && (year % 100 ≠ 0 || year % 400 = 0)

def daysInMonth (year : Int) (month : Nat) : Nat :=
  if month = 2 then if isLeap year then 29 else 28
  else if [4, 6, 9, 11].contains month then 30
  else 31

def isSound (m : Moment) : Bool :=
  1 ≤ m.month && m.month ≤ 12 && 1 ≤ m.day && m.day ≤ daysInMonth m.year m.month &&
    m.hour < 24 && m.minute < 60 && m.second < 61

def checked (m : Moment) : Option Moment := if m.isSound then some m else none

def monthNames : List String :=
  ["January", "February", "March", "April", "May", "June", "July", "August", "September",
    "October", "November", "December"]

def dayNames : List String :=
  ["Sunday", "Monday", "Tuesday", "Wednesday", "Thursday", "Friday", "Saturday"]

/-- Reads digits that stand together: perhaps the century and the year, the month, the day, the
hour and the minute, and perhaps the second after a point. -/
def ofDigits? (thisYear : Int) (cs : Chars) : Option Moment :=
  let (digits, rest) := cs.span Char.isDigit
  let second? :=
    match rest with
    | [] => some 0
    | '.' :: ds => if ds.length = 2 then natural? ds else none
    | _ => none
  let two (n : Nat) : Nat := ((natural? ((digits.drop n).take 2)).getD 0)
  let build (year : Int) (from_ : Nat) : Option Moment :=
    second?.bind fun second =>
      checked
        { year, month := two from_, day := two (from_ + 2), hour := two (from_ + 4)
          minute := two (from_ + 6), second }
  match digits.length with
  | 8 => build thisYear 0
  | 10 => build (if two 0 < 69 then 2000 + two 0 else 1900 + two 0) 2
  | 12 => build (two 0 * 100 + two 2) 4
  | _ => none

def digits (width n : Nat) : Chars :=
  let cs := decimal n
  List.replicate (width - cs.length) '0' ++ cs

def weekFrom (m : Moment) (first : Nat) : Nat :=
  (m.dayOfYear + 6 - (m.weekday + 7 - first) % 7) / 7

/-- The year and the number of the week that begins on Monday and has most of its days in it. -/
def isoWeek (m : Moment) : Int × Nat :=
  let day := (m.weekday + 6) % 7
  let week : Int := ((m.dayOfYear : Int) - 1 - day + 10) / 7
  let long (year : Int) : Nat :=
    let first := ({ year, month := 1, day := 1 } : Moment).weekday
    if first = 4 || first = 3 && isLeap year then 53 else 52
  if week < 1 then (m.year - 1, long (m.year - 1))
  else if long m.year < week then (m.year + 1, 1)
  else (m.year, week.toNat)

def longForm (c : Char) : Option String :=
  match c with
  | 'F' => some "%Y-%m-%d"
  | 'T' => some "%H:%M:%S"
  | 'X' => some "%H:%M:%S"
  | 'D' => some "%m/%d/%y"
  | 'x' => some "%m/%d/%y"
  | 'R' => some "%H:%M"
  | 'r' => some "%I:%M:%S %p"
  | 'c' => some "%a %b %e %H:%M:%S %Y"
  | 'h' => some "%b"
  | _ => none

def part (m : Moment) (seconds : Int) (nanoseconds : Nat) (c : Char) : Option Chars :=
  let year := m.year.toNat
  let hour := (m.hour + 11) % 12 + 1
  let dayName := (dayNames.getD m.weekday "").toList
  let monthName := (monthNames.getD (m.month - 1) "").toList
  match c with
  | 'Y' => some (if m.year < 0 then '-' :: digits 3 m.year.natAbs else digits 4 year)
  | 'C' => some (digits 2 (year / 100))
  | 'y' => some (digits 2 (year % 100))
  | 'm' => some (digits 2 m.month)
  | 'd' => some (digits 2 m.day)
  | 'e' => some (padded 2 (decimal m.day))
  | 'H' => some (digits 2 m.hour)
  | 'k' => some (padded 2 (decimal m.hour))
  | 'I' => some (digits 2 hour)
  | 'l' => some (padded 2 (decimal hour))
  | 'M' => some (digits 2 m.minute)
  | 'S' => some (digits 2 m.second)
  | 'N' => some (digits 9 nanoseconds)
  | 's' => some (toString seconds).toList
  | 'j' => some (digits 3 m.dayOfYear)
  | 'q' => some (decimal ((m.month + 2) / 3))
  | 'a' => some (dayName.take 3)
  | 'A' => some dayName
  | 'b' => some (monthName.take 3)
  | 'B' => some monthName
  | 'p' => some (if m.hour < 12 then "AM" else "PM").toList
  | 'P' => some (if m.hour < 12 then "am" else "pm").toList
  | 'u' => some (decimal ((m.weekday + 6) % 7 + 1))
  | 'w' => some (decimal m.weekday)
  | 'U' => some (digits 2 (m.weekFrom 0))
  | 'W' => some (digits 2 (m.weekFrom 1))
  | 'V' => some (digits 2 m.isoWeek.2)
  | 'G' => some (toString m.isoWeek.1).toList
  | 'g' => some (digits 2 (m.isoWeek.1 % 100).toNat)
  | 'z' => some "+0000".toList
  | 'Z' => some "UTC".toList
  | 'n' => some ['\n']
  | 't' => some ['\t']
  | '%' => some ['%']
  | _ => none

/-- A moment in a format. A mark after the percent sign says how numbers are filled up. -/
def formatted (seconds : Int) (nanoseconds : Nat) : Nat → Chars → Chars
  | 0, cs => cs
  | _, [] => []
  | n + 1, '%' :: cs =>
    let marks := cs.takeWhile fun c => ['-', '_', '0', '^', '#'].contains c
    let width := (cs.drop marks.length).takeWhile Char.isDigit
    let m := ofSeconds seconds
    match cs.drop (marks.length + width.length) with
    | [] => '%' :: cs
    | c :: rest =>
      match longForm c with
      | some long => formatted seconds nanoseconds n (long.toList ++ rest)
      | none =>
        match m.part seconds nanoseconds c with
        | none => '%' :: marks ++ width ++ c :: formatted seconds nanoseconds n rest
        | some text =>
          let bare := text.dropWhile fun c => c = '0' || c = ' '
          let bare := if bare = [] then text.drop (text.length - 1) else bare
          let isNumber := text.all fun c => c.isDigit || c = ' '
          let text :=
            if marks.contains '-' && isNumber then bare
            else if marks.contains '_' && isNumber then padded text.length bare
            else text
          let text := if marks.contains '^' then text.map Char.toUpper else text
          let least := Arithmetic.numeral 10 width
          let fill := if isNumber && !marks.contains '_' then '0' else ' '
          let text := if c = 'N' && width ≠ [] then text.take least
            else List.replicate (least - text.length) fill ++ text
          text ++ formatted seconds nanoseconds n rest
  | n + 1, c :: cs => c :: formatted seconds nanoseconds n cs

end Moment

def startOfTime : Nat := 1767225600

/-- A time of the machine for one that is counted from 1970 on, in seconds. -/
def machineTime (seconds : Int) : Int := (seconds - startOfTime) * 1000000

/-- How late it is, in seconds after the beginning of 1970, and microseconds. -/
def now : Action (Nat × Nat) := do
  let clock := (← Action.process).clock
  return (startOfTime + clock / 1000000, clock % 1000000)

end ImportResolver.Tool
