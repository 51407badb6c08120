import ImportResolver.Tool.Calendar
/- Dates as users write them: days, times of day and zones in any order, and spans of time that are
added to them. -/
namespace ImportResolver.Tool.Dates

open Shell

structure Figure where
  value : Int
  digits : Nat
  deriving DecidableEq

/-- What spans of time are counted in. -/
inductive Scale where
  | year | month | day | hour | minute | second
  deriving DecidableEq

inductive Mark where
  | number (f : Figure)
  /-- A number with a sign. -/
  | signed (f : Figure)
  /-- A number with a fraction, in billionths. -/
  | parts (billionths : Int) (isSigned : Bool)
  | scale (s : Scale) (times : Int)
  | month (n : Nat)
  | weekday (n : Nat)
  | half (isAfternoon : Bool)
  /-- A zone, by the minutes that it is ahead of Greenwich. -/
  | zone (minutes : Int) (isSummer : Bool)
  | summer
  | between
  | ordinal (n : Int)
  /-- A day, by how far it is from this one. -/
  | shift (days : Int)
  /-- A word that says whether the span before it lies in the past. -/
  | ago (factor : Int)
  | sign (c : Char)
  deriving DecidableEq

/-- The zones that have names, with the quarters of an hour that they are ahead of Greenwich. -/
def zones : List (String × Int) :=
  [("GMT", 0), ("UT", 0), ("UTC", 0), ("WET", 0), ("ART", -12), ("BRT", -12), ("NST", -14),
    ("AST", -16), ("CLT", -16), ("EST", -20), ("CST", -24), ("MST", -28), ("PST", -32),
    ("AKST", -36), ("HST", -40), ("HAST", -40), ("SST", -48), ("WAT", 4), ("CET", 4), ("MET", 4),
    ("MEZ", 4), ("EET", 8), ("CAT", 8), ("SAST", 8), ("EAT", 12), ("MSK", 12), ("IST", 22),
    ("SGT", 32), ("KST", 36), ("JST", 36), ("GST", 40), ("NZST", 48)]

/-- The zones in summer, with what they are ahead of Greenwich in winter. -/
def summerZones : List (String × Int) :=
  [("WEST", 0), ("BST", 0), ("BRST", -12), ("NDT", -14), ("ADT", -16), ("CLST", -16),
    ("EDT", -20), ("CDT", -24), ("MDT", -28), ("PDT", -32), ("AKDT", -36), ("HADT", -40),
    ("CEST", 4), ("MEST", 4), ("MESZ", 4), ("EEST", 8), ("MSD", 12), ("NZDT", 48)]

def zone? (word : String) : Option Mark :=
  match zones.find? (·.1 = word), summerZones.find? (·.1 = word) with
  | some (_, quarters), _ => some (.zone (quarters * 15) false)
  | none, some (_, quarters) => some (.zone (quarters * 15) true)
  | none, none => none

def scales : List (String × Scale × Int) :=
  [("YEAR", .year, 1), ("MONTH", .month, 1), ("FORTNIGHT", .day, 14), ("WEEK", .day, 7),
    ("DAY", .day, 1), ("HOUR", .hour, 1), ("MINUTE", .minute, 1), ("MIN", .minute, 1),
    ("SECOND", .second, 1), ("SEC", .second, 1)]

def relatives : List (String × Mark) :=
  [("TOMORROW", .shift 1), ("YESTERDAY", .shift (-1)), ("TODAY", .shift 0), ("NOW", .shift 0),
    ("LAST", .ordinal (-1)), ("THIS", .ordinal 0), ("NEXT", .ordinal 1), ("FIRST", .ordinal 1),
    ("THIRD", .ordinal 3), ("FOURTH", .ordinal 4), ("FIFTH", .ordinal 5), ("SIXTH", .ordinal 6),
    ("SEVENTH", .ordinal 7), ("EIGHTH", .ordinal 8), ("NINTH", .ordinal 9), ("TENTH", .ordinal 10),
    ("ELEVENTH", .ordinal 11), ("TWELFTH", .ordinal 12), ("AGO", .ago (-1)), ("HENCE", .ago 1)]

def names : List (Chars × Mark) :=
  let upper (s : String) : Chars := s.toList.map Char.toUpper
  let months := Moment.monthNames.zipIdx.map fun (s, i) => (upper s, Mark.month (i + 1))
  let days := Moment.dayNames.zipIdx.map fun (s, i) => (upper s, Mark.weekday i)
  months ++ days ++
    [("SEPT", Mark.month 9), ("TUES", .weekday 2), ("WEDNES", .weekday 3), ("THUR", .weekday 4),
      ("THURS", .weekday 4)].map fun (s, m) => (s.toList, m)

def letterZone? (c : Char) : Option Mark :=
  let hours (n : Int) : Option Mark := some (.zone (n * 60) false)
  if c = 'T' then some .between
  else if c = 'Z' || c = 'J' then hours 0
  else if 'A' ≤ c && c ≤ 'I' then hours (c.toNat - 64)
  else if 'K' ≤ c && c ≤ 'M' then hours (c.toNat - 65)
  else if 'N' ≤ c && c ≤ 'Y' then hours (77 - (c.toNat : Int))
  else none

def word? (cs : Chars) : Option Mark :=
  let word := String.ofList cs
  let scale? (w : Chars) : Option Mark :=
    (scales.find? (·.1 = String.ofList w)).map fun (_, s, times) => .scale s times
  if word = "AM" || word = "A.M." then some (.half false)
  else if word = "PM" || word = "P.M." then some (.half true)
  else
    let isShort := cs.length = 3 || cs.length = 4 && cs.getLast? = some '.'
    match names.find? fun (name, _) => if isShort then name.take 3 = cs.take 3 else name = cs with
    | some (_, mark) => some mark
    | none =>
      match zone? word with
      | some mark => some mark
      | none =>
        if word = "DST" then some .summer
        else
          let singular := if cs.getLast? = some 'S' then cs.dropLast else cs
          match (scale? cs).or (scale? singular), relatives.find? (·.1 = word), cs with
          | some mark, _, _ => some mark
          | none, some (_, mark), _ => some mark
          | none, none, [c] => letterZone? c
          | none, none, _ => if cs.contains '.' then zone? (String.ofList (cs.filter (· ≠ '.')))
            else none

def afterRemark : Nat → Chars → Chars
  | _, [] => []
  | depth, ')' :: cs => if depth = 0 then cs else afterRemark (depth - 1) cs
  | depth, '(' :: cs => afterRemark (depth + 1) cs
  | depth, _ :: cs => afterRemark depth cs

def largest : Nat := 9223372036854775807

def numeral? (sign : Option Int) (cs : Chars) : Option (Mark × Chars) :=
  let (digits, rest) := cs.span Char.isDigit
  let whole := Arithmetic.numeral 10 digits
  if largest < whole then none
  else
    let factor := sign.getD 1
    let plain : Mark × Chars :=
      let figure : Figure := ⟨factor * whole, digits.length⟩
      (if sign.isSome then .signed figure else .number figure, rest)
    match rest with
    | point :: more =>
      let (fraction, after) := more.span Char.isDigit
      if (point = '.' || point = ',') && !fraction.isEmpty then
        let nine := (fraction ++ List.replicate 9 '0').take 9
        let all : Nat := whole * 1000000000 + Arithmetic.numeral 10 nine
        some (.parts (factor * all) sign.isSome, after)
      else some plain
    | [] => some plain

def marks : Nat → Chars → Option (List Mark)
  | 0, _ => none
  | _, [] => some []
  | n + 1, c :: cs =>
    if Arithmetic.isSpace c then marks n cs
    else if c.isDigit then do
      let (mark, rest) ← numeral? none (c :: cs)
      return mark :: (← marks n rest)
    else if c = '+' || c = '-' then
      let body := cs.dropWhile Arithmetic.isSpace
      if body.head?.any Char.isDigit then do
        let (mark, rest) ← numeral? (some (if c = '-' then -1 else 1)) body
        return mark :: (← marks n rest)
      else marks n body
    else if c.isAlpha then do
      let isLetter (c : Char) : Bool := c.isAlpha || c = '.'
      let mark ← word? (((c :: cs).takeWhile isLetter).map Char.toUpper)
      return mark :: (← marks n (cs.dropWhile isLetter))
    else if c = '(' then marks n (afterRemark 0 cs)
    else return .sign c :: (← marks n cs)

structure Plan where
  year : Figure
  month : Int
  day : Int
  hour : Int
  minute : Int
  billionths : Int
  half : Option Bool := none
  /-- Minutes that the zone is ahead of Greenwich. -/
  zone : Int := 0
  weekday : Nat := 0
  /-- Which one of the days with that name. -/
  ordinal : Int := 0
  /-- Months, days and billionths of a second to add. -/
  later : Int × Int × Int := (0, 0, 0)
  dates : Nat := 0
  times : Nat := 0
  weekdays : Nat := 0
  zones : Nat := 0
  isRelative : Bool := false

namespace Plan

def addDate (p : Plan) (year : Figure) (month day : Int) : Plan :=
  { p with year, month, day, dates := p.dates + 1 }

def addTime (p : Plan) (hour minute billionths : Int) (half : Option Bool) : Plan :=
  { p with hour, minute, billionths, half, times := p.times + 1 }

def addZone (p : Plan) (minutes : Int) : Plan := { p with zone := minutes, zones := p.zones + 1 }

def addWeekday (p : Plan) (weekday : Nat) (ordinal : Int) : Plan :=
  { p with weekday, ordinal, weekdays := p.weekdays + 1 }

def span (s : Scale) (n : Int) : Int × Int × Int :=
  match s with
  | .year => (n * 12, 0, 0)
  | .month => (n, 0, 0)
  | .day => (0, n, 0)
  | .hour => (0, 0, n * 3600000000000)
  | .minute => (0, 0, n * 60000000000)
  | .second => (0, 0, n * 1000000000)

def addSpan (p : Plan) (span : Int × Int × Int) (factor : Int) : Plan :=
  let (months, days, parts) := p.later
  { p with
    later := (months + span.1 * factor, days + span.2.1 * factor, parts + span.2.2 * factor)
    isRelative := true }

/-- A number that stands alone: the year of a day that has none, a day, or a time of day. -/
def addNumber (p : Plan) (f : Figure) : Plan :=
  if p.dates ≠ 0 && p.year.digits = 0 && !p.isRelative && (p.times ≠ 0 || 2 < f.digits) then
    { p with year := f }
  else if 4 < f.digits then
    p.addDate ⟨f.value / 10000, f.digits - 4⟩ (f.value / 100 % 100) (f.value % 100)
  else if f.digits ≤ 2 then p.addTime f.value 0 0 none
  else p.addTime (f.value / 100) (f.value % 100) 0 none

end Plan

def offset? (f : Figure) (rest : List Mark) : Option (Int × List Mark) :=
  let inDay (minutes : Int) (rest : List Mark) : Option (Int × List Mark) :=
    if 24 * 60 < minutes.natAbs then none else some (minutes, rest)
  match rest with
  | .sign ':' :: .number minutes :: rest =>
    inDay (f.value * 60 + (if f.value < 0 then -minutes.value else minutes.value)) rest
  | .sign ':' :: _ => none
  | _ =>
    inDay (if f.digits ≤ 2 then f.value * 60 else f.value.tdiv 100 * 60 + f.value.tmod 100) rest

/-- A time of day, with what may follow it: a half of the day, or how far a zone is ahead. -/
def timeOfDay (p : Plan) (hour minute billionths : Int) (isStrict : Bool) :
    List Mark → Option (Plan × List Mark)
  | .half isAfternoon :: rest =>
    if isStrict then none else some (p.addTime hour minute billionths (some isAfternoon), rest)
  | .signed f :: rest => do
    let (minutes, rest) ← offset? f rest
    return ((p.addTime hour minute billionths none).addZone minutes, rest)
  | rest => some (p.addTime hour minute billionths none, rest)

def clock (p : Plan) (hour : Int) (isStrict : Bool) : List Mark → Option (Plan × List Mark)
  | .number minute :: .sign ':' :: .number s :: rest =>
    timeOfDay p hour minute.value (s.value * 1000000000) isStrict rest
  | .number minute :: .sign ':' :: .parts s false :: rest =>
    timeOfDay p hour minute.value s isStrict rest
  | .number _ :: .sign ':' :: _ => none
  | .number minute :: rest => timeOfDay p hour minute.value 0 isStrict rest
  | _ => none

/-- A span of time, of which so many units were read, and perhaps a word for its direction. -/
def spanOf (p : Plan) (span : Int × Int × Int) : List Mark → Plan × List Mark
  | .ago factor :: rest => (p.addSpan span factor, rest)
  | rest => (p.addSpan span 1, rest)

/-- What may follow the name of a zone: how far it is from that one, or a span of time. -/
def afterZone (p : Plan) (minutes : Int) : List Mark → Option (Plan × List Mark)
  | .signed f :: .scale s times :: rest =>
    some ((p.addZone minutes).addSpan (Plan.span s (f.value * times)) 1, rest)
  | .signed f :: rest => do
    let (more, rest) ← offset? f rest
    return (p.addZone (minutes + more), rest)
  | .summer :: rest => some (p.addZone (minutes + 60), rest)
  | rest => some (p.addZone minutes, rest)

def numbered (p : Plan) (f : Figure) (rest : List Mark) : Option (Plan × List Mark) :=
  match rest with
  | .sign '/' :: .number g :: .sign '/' :: .number h :: rest =>
    some (if 4 ≤ f.digits then p.addDate f g.value h.value else p.addDate h f.value g.value, rest)
  | .sign '/' :: .number _ :: .sign '/' :: _ => none
  | .sign '/' :: .number g :: rest => some (p.addDate p.year f.value g.value, rest)
  | .sign ':' :: rest => clock p f.value false rest
  | .half isAfternoon :: rest => some (p.addTime f.value 0 0 (some isAfternoon), rest)
  | .weekday day :: rest => some (p.addWeekday day f.value, rest)
  | .month m :: .signed year :: rest =>
    some (p.addDate ⟨-year.value, year.digits⟩ m f.value, rest)
  | .month m :: .number year :: rest => some (p.addDate year m f.value, rest)
  | .month m :: rest => some (p.addDate p.year m f.value, rest)
  | .signed month :: .signed day :: .between :: rest =>
    let p := p.addDate f (-month.value) (-day.value)
    match rest with
    | .number hour :: .sign ':' :: rest => clock p hour.value true rest
    | .number hour :: .signed zone :: rest => do
      let (minutes, rest) ← offset? zone rest
      return ((p.addTime hour.value 0 0 none).addZone minutes, rest)
    | _ => none
  | .signed month :: .signed day :: rest => some (p.addDate f (-month.value) (-day.value), rest)
  | .signed g :: .scale s times :: rest =>
    some ((p.addNumber f).addSpan (Plan.span s (g.value * times)) 1, rest)
  | .signed zone :: rest => do
    let (minutes, rest) ← offset? zone rest
    return ((p.addTime f.value 0 0 none).addZone minutes, rest)
  | .scale s times :: rest => some (spanOf p (Plan.span s (f.value * times)) rest)
  | rest => some (p.addNumber f, rest)

def part (p : Plan) : List Mark → Option (Plan × List Mark)
  | .number f :: rest => numbered p f rest
  | .signed f :: .scale s times :: rest => some (spanOf p (Plan.span s (f.value * times)) rest)
  | .parts billionths _ :: .scale .second _ :: rest => some (spanOf p (0, 0, billionths) rest)
  | .ordinal n :: .weekday day :: rest => some (p.addWeekday day n, rest)
  | .ordinal n :: .scale s times :: rest => some (spanOf p (Plan.span s (n * times)) rest)
  | .scale s times :: rest => some (spanOf p (Plan.span s times) rest)
  | .weekday day :: .sign ',' :: rest => some (p.addWeekday day 0, rest)
  | .weekday day :: rest => some (p.addWeekday day 0, rest)
  | .month m :: .signed day :: .signed year :: rest =>
    some (p.addDate ⟨-year.value, year.digits⟩ m (-day.value), rest)
  | .month m :: .number day :: .sign ',' :: .number year :: rest =>
    some (p.addDate year m day.value, rest)
  | .month _ :: .number _ :: .sign ',' :: _ => none
  | .month m :: .number day :: rest => some (p.addDate p.year m day.value, rest)
  | .zone minutes true :: rest => some (p.addZone (minutes + 60), rest)
  | .zone minutes false :: rest => afterZone p minutes rest
  | .between :: .signed f :: .scale s times :: rest =>
    some ((p.addZone (-420)).addSpan (Plan.span s (f.value * times)) 1, rest)
  | .between :: rest => some (p.addZone (-420), rest)
  | .shift days :: rest => some (p.addSpan (0, days, 0) 1, rest)
  | _ => none

def parts : Nat → Plan → List Mark → Option Plan
  | _, p, [] => some p
  | 0, _, _ => none
  | n + 1, p, ms =>
    match part p ms with
    | some (p, rest) => parts n p rest
    | none => none

def hourOf (hour : Int) : Option Bool → Option Int
  | none => if 0 ≤ hour && hour < 24 then some hour else none
  | some isAfternoon =>
    if 0 < hour && hour ≤ 12 then some (hour % 12 + if isAfternoon then 12 else 0) else none

def Plan.instant? (p : Plan) : Option Int := do
  guard (p.times ≤ 1 && p.dates ≤ 1 && p.weekdays ≤ 1 && p.zones ≤ 1)
  let year := if p.year.digits = 2 then p.year.value + (if p.year.value < 69 then 2000 else 1900)
    else p.year.value
  let isTimed := p.times ≠ 0 || p.isRelative && p.dates = 0 && p.weekdays = 0
  let hour ← if isTimed then hourOf p.hour p.half else some 0
  let (minute, billionths) := if isTimed then (p.minute, p.billionths) else (0, 0)
  guard (1 ≤ p.month && p.month ≤ 12 && 1 ≤ p.day && 0 ≤ minute && minute < 60)
  guard (0 ≤ billionths && billionths < 60000000000 && year.natAbs < 2147483648)
  let m : Moment := { year, month := p.month.toNat, day := p.day.toNat }
  guard m.isSound
  let named : Int :=
    if p.weekdays = 0 || p.dates ≠ 0 then 0
    else
      let isLater := 0 < p.ordinal && m.weekday ≠ p.weekday
      ((p.weekday : Int) - m.weekday + 7) % 7 + 7 * (p.ordinal - if isLater then 1 else 0)
  let (months, days, more) := p.later
  guard (months.natAbs < 2147483648 && days.natAbs < 2147483648)
  let month := year * 12 + (p.month - 1) + months
  let first : Moment := { year := month.fdiv 12, month := (month.fmod 12).toNat + 1, day := 1 }
  let day := first.days + (p.day - 1) + named + days
  return (day * 86400 + hour * 3600 + minute * 60 - p.zone * 60) * 1000000000 + billionths + more

def withoutZone (cs : Chars) : Chars :=
  let body := cs.dropWhile Arithmetic.isSpace
  if body.take 4 = "TZ=\"".toList && (body.drop 4).contains '"' then
    ((body.drop 4).dropWhile (· ≠ '"')).drop 1
  else cs

/-- Reads a moment as users write it; moments are counted in billionths of a second after the
beginning of 1970. -/
def read? (cs : Chars) (now : Int) : Option Int := do
  let ms ← marks (cs.length + 1) (withoutZone cs)
  match ms with
  | [.sign '@', .number f] | [.sign '@', .signed f] => return f.value * 1000000000
  | [.sign '@', .parts billionths _] => return billionths
  | _ =>
    let today := Moment.ofSeconds (now.fdiv 1000000000)
    let plan : Plan :=
      { year := ⟨today.year, 0⟩, month := today.month, day := today.day, hour := today.hour
        minute := today.minute
        billionths := today.second * 1000000000 + now.fmod 1000000000 }
    (← parts (ms.length + 1) plan ms).instant?

end ImportResolver.Tool.Dates
