import ReviewGraph.Foundation.Unicode

/-!
# Reading dates and numbers

The readers of the standard library that the time checks rely on: `readInt` is the conversion of a
string to an integer, and `fromIsoFormat` reads a date with a time and an offset.  The latter
accepts what the C implementation accepts, which is more than the documented formats: a clock may
end with a separator, and text behind six digits of a fraction is ignored.
-/

namespace DateTime

/-! ## Integers -/

/-- A blank around an integer. -/
def isIntBlank (c : Char) : Bool :=
  c ∈ [' ', '\t', '\n', '\x0b', '\x0c', '\r'] || (128 ≤ c.toNat && Unicode.isSpace c)

/-- Digits with single underscores between them, behind a digit. -/
def readDigits (acc : ℕ) : Text → Option ℕ
  | [] => some acc
  | '_' :: c :: t => do readDigits (acc * 10 + (← Unicode.decimalValue? c)) t
  | c :: t => do readDigits (acc * 10 + (← Unicode.decimalValue? c)) t

/-- An integer without sign. -/
def readNat : Text → Option ℕ
  | [] => none
  | c :: t => do readDigits (← Unicode.decimalValue? c) t

/-- The conversion of a string to an integer. -/
def readInt (t : Text) : Option ℤ :=
  match (t.dropWhile isIntBlank).rdropWhile isIntBlank with
  | '+' :: digits => (readNat digits).map fun n => (n : ℤ)
  | '-' :: digits => (readNat digits).map fun n => -(n : ℤ)
  | digits => (readNat digits).map fun n => (n : ℤ)

/-! ## The calendar -/

/-- A leap year. -/
def isLeapYear (year : ℤ) : Bool := year % 4 = 0 && (year % 100 ≠ 0 || year % 400 = 0)

/-- The lengths of the months of a year. -/
def daysByMonth (year : ℤ) : List ℤ :=
  [31, if isLeapYear year then 29 else 28, 31, 30, 31, 30, 31, 31, 30, 31, 30, 31]

/-- The number of days before a year, counted from the first of January of the year 1. -/
def daysBeforeYear (year : ℤ) : ℤ :=
  (year - 1) * 365 + (year - 1) / 4 - (year - 1) / 100 + (year - 1) / 400

/-- The days of the months before a month. -/
def daysBeforeMonth (year : ℤ) (month : ℕ) : ℤ := ((daysByMonth year).take (month - 1)).sum

/-- The ordinal of a valid date. -/
def ordinal? (year month day : ℕ) : Option ℤ :=
  if 1 ≤ year ∧ 1 ≤ month ∧ month ≤ 12 ∧ 1 ≤ day ∧ day ≤ (daysByMonth year).getD (month - 1) 0 then
    some (daysBeforeYear year + daysBeforeMonth year month + day)
  else none

/-- The ordinal of the Monday of the first week of a year. -/
def firstMonday (year : ℤ) : ℤ :=
  let first := daysBeforeYear year + 1
  let weekday := (first + 6) % 7
  let monday := first - weekday
  if 3 < weekday then monday + 7 else monday

/-- The ordinal of a valid date that is given by its week. -/
def weekOrdinal? (year week day : ℕ) : Option ℤ :=
  let weekday := (daysBeforeYear year + 7) % 7
  let longYear := weekday = 3 ∨ (weekday = 2 ∧ isLeapYear year)
  if 1 ≤ year ∧ 1 ≤ week ∧ (week ≤ 52 ∨ week = 53 ∧ longYear) ∧ 1 ≤ day ∧ day ≤ 7 then
    let ordinal := firstMonday year + (week - 1) * 7 + day - 1
    if 1 ≤ ordinal ∧ ordinal ≤ 3652059 then some ordinal else none
  else none

/-! ## The ISO format -/

/-- The value of an ASCII digit. -/
def digitValue? (c : Char) : Option ℕ := if Unicode.isDigit c then some (c.toNat - 48) else none

/-- A number of digits at the beginning of a text, and the text behind them. -/
def takeDigits (t : Text) : ℕ → ℕ → Option (ℕ × Text)
  | acc, 0 => some (acc, t)
  | acc, n + 1 =>
    match t with
    | [] => none
    | c :: t => do takeDigits t (acc * 10 + (← digitValue? c)) n

/-- The number of characters of a date, up to the separator of the time. -/
def separatorLocation (t : Text) : ℕ :=
  let charAt (i : ℕ) (p : Char → Bool) : Bool := t[i]?.any p
  if t.length = 7 then 7
  else if charAt 4 (· = '-') then
    if charAt 5 (· = 'W') then
      if charAt 8 (· = '-') then if charAt 10 Unicode.isDigit then 8 else 10
      else 8
    else 10
  else if charAt 4 (· = 'W') then
    let pos := 7 + ((t.drop 7).takeWhile Unicode.isDigit).length
    if pos < 9 then pos else if pos % 2 = 0 then 7 else 8
  else 8

/-- The ordinal of a date in ISO format. -/
def readDate (t : Text) : Option ℤ := do
  let (year, t) ← takeDigits t 0 4
  let separated := t.head? = some '-'
  let t := if separated then t.tail else t
  match t with
  | 'W' :: t =>
    let (week, t) ← takeDigits t 0 2
    if t = [] then weekOrdinal? year week 1
    else
      let t ← if separated then (if t.head? = some '-' then some t.tail else none) else some t
      let (day, _) ← takeDigits t 0 1
      weekOrdinal? year week day
  | t =>
    let (month, t) ← takeDigits t 0 2
    let t ← if separated then (if t.head? = some '-' then some t.tail else none) else some t
    let (day, t) ← takeDigits t 0 2
    if t = [] then ordinal? year month day else none

/-- What is left of a text stands in the way: the parser takes a null character for the end. -/
def isLeft (t : Text) (followed : Bool) : Bool := t.head?.elim followed (· ≠ '\x00')

/-- The fraction of a second in microseconds, and whether something follows it. -/
def readFraction (t : Text) (followed : Bool) : Option (ℕ × Bool) := do
  let parsed := min t.length 6
  let (value, rest) ← takeDigits t 0 parsed
  return (value * 10 ^ (6 - parsed), isLeft (rest.dropWhile Unicode.isDigit) followed)

/-- The fields of a clock with the microseconds, and whether something follows them; the number is
that of the fields to come. -/
def readClock (followed : Bool) : ℕ → Option Bool → List ℕ → Text → Option (List ℕ × ℕ × Bool)
  | 0, _, fields, t => do
    let (microsecond, rest) ← readFraction t followed
    return (fields, microsecond, rest)
  | n + 1, separated, fields, t => do
    let (value, t) ← takeDigits t 0 2
    let fields := fields ++ [value]
    match t with
    | [] => return (fields, 0, followed)
    -- One byte may be left over, which is less than a character outside ASCII.
    | [c] => if c.toNat < 128 then return (fields, 0, isLeft [c] followed) else none
    | c :: rest =>
      let separated := separated.getD (c = ':')
      if separated && c = ':' then readClock followed n (some separated) fields rest
      else if c = '.' || c = ',' then
        let (microsecond, rest) ← readFraction rest followed
        return (fields, microsecond, rest)
      else if !separated then readClock followed n (some separated) fields (c :: rest)
      else none

/-- The microseconds of the fields of a clock. -/
def clockMicroseconds (fields : List ℕ) (microsecond : ℕ) : ℤ :=
  ((fields.getD 0 0 * 3600 + fields.getD 1 0 * 60 + fields.getD 2 0) * 1000000 + microsecond : ℕ)

/-- The microseconds of a time of day with its offset, both in microseconds. -/
def readTime (t : Text) : Option (ℤ × Option ℤ) := do
  let isOffset (c : Char) : Bool := c = '+' || c = '-' || c = 'Z'
  let clock := t.takeWhile fun c => !isOffset c
  let offset := t.dropWhile fun c => !isOffset c
  let (fields, microsecond, rest) ← readClock (offset ≠ []) 3 none [] clock
  let time ← if fields.getD 0 0 ≤ 23 ∧ fields.getD 1 0 ≤ 59 ∧ fields.getD 2 0 ≤ 59 then
      some (clockMicroseconds fields microsecond) else none
  match offset with
  | [] => if rest then none else some (time, none)
  | 'Z' :: t => if isLeft t false then none else some (time, some 0)
  | sign :: t =>
    let (fields, microsecond, rest) ← readClock false 3 none [] t
    let offset := clockMicroseconds fields microsecond
    if rest ∨ 86400000000 ≤ offset then none
    -- An offset of less than a second is taken for that of UTC.
    else if clockMicroseconds fields 0 = 0 then some (time, some 0)
    else some (time, some (if sign = '-' then -offset else offset))

/-- `datetime.fromisoformat(t).astimezone(timezone.utc)` in microseconds, for a text with an
offset. -/
def fromIsoFormat (t : Text) : Option ℤ := do
  let location := separatorLocation t
  let day ← readDate (t.take location)
  let (time, offset) ← readTime (t.drop (location + 1))
  return day * 86400000000 + time - (← offset)

end DateTime
