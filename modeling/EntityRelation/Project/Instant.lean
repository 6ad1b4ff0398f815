import EntityRelation.Json.Decode
import EntityRelation.Text.Blank
import EntityRelation.Text.Bytes
import EntityRelation.Text.Digit

/-!
# Instants

An instant is a second of universal time and a fraction of it in nanoseconds. A fraction of a
second or more belongs to a leap second. Instants are written as a date and a time of day with the
letter `Z`, and the fraction with as many groups of three digits as it needs. They are read with
any offset from universal time; blanks between the parts do not matter.
-/

namespace EntityRelation

/-- A point in time: seconds since the start of 1970, and nanoseconds. -/
structure Instant where
  seconds : Int
  nanos : Nat
  deriving DecidableEq, Repr, Inhabited

/-- Why a text is no instant. -/
inductive InstantFault where
  | tooShort
  | tooLong
  | invalid
  | outOfRange
  | impossible
  deriving DecidableEq, Repr

namespace InstantFault

/-- The wording of a fault. -/
def message : InstantFault → String
  | tooShort => "premature end of input"
  | tooLong => "trailing input"
  | invalid => "input contains invalid characters"
  | outOfRange => "input is out of range"
  | impossible => "no possible date and time matching input"

end InstantFault

/-- A day of the calendar. -/
structure Date where
  year : Int
  month : Nat
  day : Nat
  deriving DecidableEq, Repr

namespace Date

/-- Whether the year has a twenty-ninth of February. -/
def isLeapYear (year : Int) : Bool :=
  year % 4 = 0 && (year % 100 ≠ 0 || year % 400 = 0)

/-- The number of days of a month. -/
def daysInMonth (year : Int) (month : Nat) : Nat :=
  if month = 2 then if isLeapYear year then 29 else 28
  else if [4, 6, 9, 11].contains month then 30
  else 31

/-- The first year that days are counted in. -/
def firstYear : Int := -262143

/-- The last year that days are counted in. -/
def lastYear : Int := 262142

/-- Whether the day exists, in a year that is not out of range. -/
def isValid (d : Date) : Bool :=
  1 ≤ d.month && d.month ≤ 12 && 1 ≤ d.day && d.day ≤ daysInMonth d.year d.month &&
    firstYear ≤ d.year && d.year ≤ lastYear

/-- Days since the first of January 1970. Years are counted from March, in eras of four hundred. -/
def toDays (d : Date) : Int :=
  let year := if d.month ≤ 2 then d.year - 1 else d.year
  let era := Int.fdiv year 400
  let yearOfEra := year - era * 400
  let monthFromMarch : Int := ((d.month + 9) % 12 : Nat)
  let dayOfYear := (153 * monthFromMarch + 2) / 5 + (d.day - 1 : Nat)
  let dayOfEra := yearOfEra * 365 + yearOfEra / 4 - yearOfEra / 100 + dayOfYear
  era * 146097 + dayOfEra - 719468

/-- The day that is so many days after the first of January 1970. -/
def ofDays (days : Int) : Date :=
  let shifted := days + 719468
  let era := Int.fdiv shifted 146097
  let dayOfEra := (shifted - era * 146097).toNat
  let yearOfEra := (dayOfEra - dayOfEra / 1460 + dayOfEra / 36524 - dayOfEra / 146096) / 365
  let dayOfYear := dayOfEra - (365 * yearOfEra + yearOfEra / 4 - yearOfEra / 100)
  let monthFromMarch := (5 * dayOfYear + 2) / 153
  let day := dayOfYear - (153 * monthFromMarch + 2) / 5 + 1
  let month := if monthFromMarch < 10 then monthFromMarch + 3 else monthFromMarch - 9
  let year : Int := era * 400 + yearOfEra
  ⟨if month ≤ 2 then year + 1 else year, month, day⟩

end Date

namespace Instant

/-- The day of universal time, counted from the first of January 1970. -/
def day (i : Instant) : Int :=
  Int.fdiv i.seconds 86400

/-- Whether the day of universal time lies in a year that is not out of range. -/
def isInRange (i : Instant) : Bool :=
  Date.toDays ⟨Date.firstYear, 1, 1⟩ ≤ i.day && i.day ≤ Date.toDays ⟨Date.lastYear, 12, 31⟩

/-- Whether an instant comes before another. -/
def isBefore (a b : Instant) : Bool :=
  a.seconds < b.seconds || (a.seconds = b.seconds && a.nanos < b.nanos)

/-! ## Writing -/

/-- A number with zeros in front up to a width. -/
def padded (width n : Nat) : String :=
  let digits := Nat.toDigits 10 n
  String.ofList (List.replicate (width - digits.length) '0' ++ digits)

/-- A year with at least four digits, and a sign when it needs another form. -/
def yearText (year : Int) : String :=
  if 0 ≤ year ∧ year ≤ 9999 then padded 4 year.toNat
  else if 0 ≤ year then "+" ++ padded 4 year.toNat
  else "-" ++ padded 4 year.natAbs

/-- The fraction of a second, in as many groups of three digits as it needs. -/
def fractionText (nanos : Nat) : String :=
  if nanos = 0 then ""
  else if nanos % 1000000 = 0 then "." ++ padded 3 (nanos / 1000000)
  else if nanos % 1000 = 0 then "." ++ padded 6 (nanos / 1000)
  else "." ++ padded 9 nanos

/-- The text of an instant. -/
def toText (i : Instant) : String :=
  let date := Date.ofDays i.day
  let second := (i.seconds - i.day * 86400).toNat
  let leap := if 1000000000 ≤ i.nanos then 1 else 0
  yearText date.year ++ "-" ++ padded 2 date.month ++ "-" ++ padded 2 date.day ++ "T" ++
    padded 2 (second / 3600) ++ ":" ++ padded 2 (second / 60 % 60) ++ ":" ++
    padded 2 (second % 60 + leap) ++ fractionText (i.nanos - leap * 1000000000) ++ "Z"

/-! ## Reading -/

/-- A number of at least one and, where there is a limit, at most so many digits. -/
def number (width : Option Nat) (cs : List Char) : Except InstantFault (Nat × List Char) :=
  let digits := (match width with
    | some n => cs.take n
    | none => cs).takeWhile Char.isDigit
  if cs.isEmpty then .error .tooShort
  else if digits.isEmpty then .error .invalid
  else if Nat.pow 2 63 ≤ Text.decimalValue digits then .error .outOfRange
  else .ok (Text.decimalValue digits, cs.drop digits.length)

/-- A number of at most two digits in a range, after blanks. -/
def component (low high : Nat) (cs : List Char) : Except InstantFault (Nat × List Char) := do
  let (n, rest) ← number (some 2) (Text.trimStart cs)
  if low ≤ n ∧ n ≤ high then .ok (n, rest) else .error .outOfRange

/-- What follows a mark, after blanks. -/
def mark (c : Char) (cs : List Char) : Except InstantFault (List Char) :=
  match Text.trimStart cs with
  | [] => .error .tooShort
  | d :: rest => if c = d then .ok rest else .error .invalid

/-- Years are below it, and not below its negative. -/
def yearLimit : Nat := Nat.pow 2 31

/-- A year, of four digits at most unless it has a sign. -/
def year (cs : List Char) : Except InstantFault (Int × List Char) := do
  let (value, rest) ←
    match Text.trimStart cs with
    | '-' :: more => do
      let (n, rest) ← number none more
      pure (-(n : Int), rest)
    | '+' :: more => do
      let (n, rest) ← number none more
      pure ((n : Int), rest)
    | more => do
      let (n, rest) ← number (some 4) more
      pure ((n : Int), rest)
  if -(yearLimit : Int) ≤ value ∧ value < yearLimit then .ok (value, rest) else .error .outOfRange

/-- A day. -/
def date (cs : List Char) : Except InstantFault (Date × List Char) := do
  let (year, cs) ← year cs
  let (month, cs) ← component 1 12 (← mark '-' cs)
  let (day, cs) ← component 1 31 (← mark '-' cs)
  return (⟨year, month, day⟩, cs)

/-- The fraction of a second in nanoseconds, if there is a point. Further digits do not count. -/
def fraction (cs : List Char) : Except InstantFault (Nat × List Char) :=
  match cs with
  | '.' :: rest => do
    let (n, after) ← number (some 9) rest
    let width := rest.length - after.length
    return (n * Nat.pow 10 (9 - width), after.dropWhile Char.isDigit)
  | _ => .ok (0, cs)

/-- The hours of an offset from universal time, which have two digits. A text of fewer than two
bytes is too short for them. -/
def offsetHours (cs : List Char) : Except InstantFault (Nat × List Char) :=
  match cs with
  | a :: b :: rest =>
    if a.isDigit ∧ b.isDigit then .ok (Text.decimalValue [a, b], rest) else .error .invalid
  | _ => .error (if Text.byteLength cs < 2 then .tooShort else .invalid)

/-- The minutes of an offset from universal time, which have two digits. -/
def offsetMinutes (cs : List Char) : Except InstantFault (Nat × List Char) := do
  let (n, rest) ← offsetHours cs
  if n < 60 then .ok (n, rest) else .error .outOfRange

/-- An offset from universal time in seconds. -/
def offset (cs : List Char) : Except InstantFault (Int × List Char) := do
  let utc := (cs.take 3).map Char.toUpper
  if utc = ['U', 'T', 'C'] then return (0, cs.drop 3)
  match cs with
  | [] => .error .tooShort
  | c :: rest =>
    if c = 'Z' ∨ c = 'z' then .ok (0, rest)
    else if c = '+' ∨ c = '-' ∨ c = '\u2212' then
      let (hours, rest) ← offsetHours rest
      let (minutes, rest) ←
        offsetMinutes (rest.dropWhile fun c => c = ':' || Text.isBlank c)
      let seconds : Int := (hours * 3600 + minutes * 60 : Nat)
      return (if c = '+' then seconds else -seconds, rest)
    else .error .invalid

/-- Read an instant. -/
def parse (text : String) : Except InstantFault Instant := do
  let (date, cs) ← date text.toList
  let cs ←
    match cs with
    | [] => .error .tooShort
    | c :: rest => if c = 'T' ∨ c = 't' ∨ c = ' ' then .ok rest else .error .invalid
  let (hour, cs) ← component 0 23 cs
  let (minute, cs) ← component 0 59 (← mark ':' cs)
  let (second, cs) ← component 0 60 (← mark ':' cs)
  let (nanos, cs) ← fraction cs
  let (offset, cs) ← offset (Text.trimStart cs)
  if !(Text.trimStart cs).isEmpty then .error .tooLong
  else if !date.isValid ∨ 86400 ≤ offset.natAbs then .error .outOfRange
  else
    let leap := if second = 60 then 1 else 0
    let ofDay : Int := (hour * 3600 + minute * 60 + second - leap : Nat)
    let instant : Instant := ⟨date.toDays * 86400 + ofDay - offset, nanos + leap * 1000000000⟩
    if instant.isInRange then .ok instant else .error .impossible

/-- An instant as JSON. -/
def toJson (i : Instant) : Json :=
  .text i.toText

/-- Read an instant from JSON. -/
def ofJson : Decoder Instant
  | .text s => (parse s).mapError fun fault => .malformed fault.message
  | j => .error (.wrongKind j "an RFC 3339 formatted date and time string")

end Instant

end EntityRelation
