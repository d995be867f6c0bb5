/-
Dates with a time of day, as text and as seconds of the Unix clock.
-/
import TypeShape.Number.Binary64
import TypeShape.Number.Shortest
import TypeShape.Json.Reader

namespace TypeShape

/-- A date and a time of day; `offset` is the distance from UTC in minutes, and a moment
without one is local. -/
structure Moment where
  year : Nat
  month : Nat
  day : Nat
  hour : Nat
  minute : Nat
  second : Nat
  microsecond : Nat
  offset : Option Int
deriving DecidableEq

namespace Moment

-- powers are those of the core library, also where a larger one brings its own
attribute [local instance (high)] instPowNat

-- ============================================================== calendar

/-- Leap years of the Gregorian calendar. -/
def isLeap (year : Nat) : Bool :=
  (year % 4 == 0 && year % 100 != 0) || year % 400 == 0

/-- The number of days of a month; a number that is no month has none. -/
def daysIn (year month : Nat) : Nat :=
  if month = 2 then (if isLeap year then 29 else 28)
  else if month = 4 ∨ month = 6 ∨ month = 9 ∨ month = 11 then 30
  else if 1 ≤ month ∧ month ≤ 12 then 31
  else 0

/-- Year, month and day of a day counted from the first of March of year 0. Years start
in March here, so that the leap day is the last one. -/
def ofDayNumber (n : Nat) : Nat × Nat × Nat :=
  let era := n / 146097
  let dayOfEra := n % 146097
  let yearOfEra := (dayOfEra - dayOfEra / 1460 + dayOfEra / 36524 - dayOfEra / 146096) / 365
  let dayOfYear := dayOfEra - (365 * yearOfEra + yearOfEra / 4 - yearOfEra / 100)
  let shifted := (5 * dayOfYear + 2) / 153
  let day := dayOfYear - (153 * shifted + 2) / 5 + 1
  let month := if shifted < 10 then shifted + 3 else shifted - 9
  (era * 400 + yearOfEra + (if month ≤ 2 then 1 else 0), month, day)

-- ================================================================== text

/-- A number with zeros before it up to a width. -/
def padded (width n : Nat) : Text :=
  let digits := Binary64.digitText n
  Binary64.zeros (width - digits.length) ++ digits

/-- The text of an offset, with its sign. -/
def offsetText (minutes : Int) : Text :=
  (if minutes < 0 then '-' else '+') :: padded 2 (minutes.natAbs / 60) ++ ':' ::
    padded 2 (minutes.natAbs % 60)

/-- Year to second, the microseconds if there are any, and the offset if it is known. -/
def toText (m : Moment) : Text :=
  padded 4 m.year ++ '-' :: padded 2 m.month ++ '-' :: padded 2 m.day ++ 'T' ::
    padded 2 m.hour ++ ':' :: padded 2 m.minute ++ ':' :: padded 2 m.second ++
    (if m.microsecond = 0 then [] else '.' :: padded 6 m.microsecond) ++
    (m.offset.map offsetText).getD []

-- =============================================================== reading

/-- The value of two digits at the start of a text. -/
def twoDigits? : Text → Option (Nat × Text)
  | a :: b :: rest =>
    if a.isDigit && b.isDigit then some (Json.digitsValue [a, b], rest) else none
  | _ => none

/-- A calendar date `YYYY-MM-DD` at the start of a text. -/
def date? : Text → Option ((Nat × Nat × Nat) × Text)
  | a :: b :: c :: d :: '-' :: rest => do
    if !([a, b, c, d].all Char.isDigit) then none else
    let year := Json.digitsValue [a, b, c, d]
    match ← twoDigits? rest with
    | (month, '-' :: rest) =>
      let (day, rest) ← twoDigits? rest
      if 1 ≤ day ∧ day ≤ daysIn year month then some ((year, month, day), rest) else none
    | _ => none
  | _ => none

/-- Seconds and microseconds after a colon, none if there is no colon. Digits past the
sixth are cut. -/
def seconds? : Text → Option ((Nat × Nat) × Text)
  | ':' :: rest => do
    let (second, rest) ← twoDigits? rest
    if second > 59 then none
    else match rest with
      | c :: more =>
        if c = '.' ∨ c = ',' then
          let (digits, left) := Json.spanDigits more
          if digits.isEmpty then none
          else
            let six := (digits ++ Binary64.zeros 6).take 6
            some ((second, Json.digitsValue six), left)
        else some ((second, 0), rest)
      | [] => some ((second, 0), [])
  | rest => some ((0, 0), rest)

/-- An offset that ends the text: nothing, `Z`, or hours and minutes below a day. -/
def offset? : Text → Option (Option Int)
  | [] => some none
  | ['Z'] => some (some 0)
  | ['z'] => some (some 0)
  | sign :: rest =>
    if sign = '+' ∨ sign = '-' ∨ sign = '\u2212' then do
      let (hours, rest) ← twoDigits? rest
      let (minutes, left) ← twoDigits? (match rest with
        | ':' :: rest => rest
        | rest => rest)
      if left.isEmpty ∧ minutes ≤ 59 ∧ hours ≤ 23 then
        let size : Int := hours * 60 + minutes
        some (some (if sign = '+' then size else -size))
      else none
    else none

/-- A time of day with its offset, up to the end of the text. -/
def time? (year month day : Nat) (t : Text) : Option Moment := do
  let (hour, rest) ← twoDigits? t
  match rest with
  | ':' :: rest =>
    let (minute, rest) ← twoDigits? rest
    let ((second, microsecond), rest) ← seconds? rest
    let offset ← offset? rest
    if hour ≤ 23 ∧ minute ≤ 59 then
      some { year, month, day, hour, minute, second, microsecond, offset }
    else none
  | _ => none

/-- A date alone, at midnight, or a date and a time of day. -/
def read? (t : Text) : Option Moment := do
  let ((year, month, day), rest) ← date? t
  match rest with
  | [] => some { year, month, day, hour := 0, minute := 0, second := 0, microsecond := 0,
                 offset := none }
  | mark :: rest =>
    if mark = 'T' ∨ mark = 't' ∨ mark = ' ' ∨ mark = '_' then time? year month day rest
    else none

-- ============================================================ unix clock

/-- The magnitude up to which a count is in seconds; above it is in milliseconds. -/
def secondsLimit : Nat := 20000000000

/-- The first second of year 0. -/
def firstSecond : Int := -62167219200

/-- The last second of year 9999. -/
def lastSecond : Int := 253402300799

/-- The moment of a count of the Unix clock, in UTC; `extra` is a count of microseconds
that come on top. Nothing outside the years 0 to 9999. -/
def ofUnix? (count : Int) (extra : Nat) : Option Moment :=
  let (seconds, micros) :=
    if count.natAbs ≤ secondsLimit then (count, 0)
    else (count.fdiv 1000, (count.fmod 1000).toNat * 1000)
  let micros := micros + extra
  let seconds := seconds + micros / 1000000
  if firstSecond ≤ seconds ∧ seconds ≤ lastSecond then
    -- 719468 days lie between the first of March of year 0 and the start of the clock;
    -- another 400 years keep the count positive
    let days := seconds.fdiv 86400 + 719468 + 146097
    let (year, month, day) := ofDayNumber days.toNat
    let rest := (seconds.fmod 86400).toNat
    some { year := year - 400, month, day, hour := rest / 3600, minute := rest / 60 % 60
           second := rest % 60, microsecond := micros % 1000000, offset := some 0 }
  else none

/-- The whole number below a finite number, and the fraction of its magnitude in
microseconds, rounded to the nearest with a half going up. -/
def splitFraction (negative : Bool) (mantissa : Nat) (exponent : Int) : Int × Nat :=
  let den : Nat := 2 ^ (-exponent).toNat
  let num : Nat := mantissa * 2 ^ exponent.toNat
  let whole : Int := num / den
  let rest := num % den
  let floor := if negative then (if rest = 0 then -whole else -whole - 1) else whole
  -- the product with a million is itself rounded to a double
  let micros := match Binary64.ofFraction false (rest * 1000000) den with
    | .finite _ m e =>
      let (n, d) := (m * 2 ^ e.toNat, 2 ^ (-e).toNat)
      (2 * n + d) / (2 * d)
    | _ => 0
  (floor, micros)

/-- The moment of a floating-point count of the Unix clock. -/
def ofFloat? : Binary64 → Option Moment
  | .finite negative mantissa exponent =>
    let (count, micros) := splitFraction negative mantissa exponent
    ofUnix? count micros
  | _ => none

/-- A written count of the Unix clock: a sign, digits, and perhaps a fraction. -/
def count? (t : Text) : Option (Int ⊕ Binary64) :=
  let (negative, rest) := match t with
    | '-' :: rest => (true, rest)
    | '+' :: rest => (false, rest)
    | rest => (false, rest)
  let (whole, rest) := Json.spanDigits rest
  if whole.isEmpty then none
  else match rest with
    | [] =>
      let n : Int := Json.digitsValue whole
      some (.inl (if negative then -n else n))
    | '.' :: rest =>
      let (fraction, left) := Json.spanDigits rest
      if left.isEmpty then
        some (.inr (.ofDecimal negative (Json.digitsValue (whole ++ fraction)) (-fraction.length)))
      else none
    | _ => none

end Moment

end TypeShape
