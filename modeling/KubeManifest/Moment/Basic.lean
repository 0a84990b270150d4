/-!
# Dates and times

* `Date`, `Clock`, `Moment` : a day of the Gregorian calendar, a time of day, and a date alone or with
  a time of day and perhaps an offset from UTC;
* `Date.ordinal`, `Date.ofOrdinal` : days counted from the first of January of year 1, and back;
* `Moment.isValid` : years 1 to 9999, real days, times and offsets below a day;
* `Moment.isoText` : the written form, `2017-01-01T10:00:00.500000+02:00`;
* `Moment.microseconds` : the place on one time line, by which moments with offsets compare.
-/

namespace KubeManifest

structure Date where
  year : Nat
  month : Nat
  day : Nat
deriving DecidableEq, Repr

structure Clock where
  hour : Nat
  minute : Nat
  second : Nat
  micro : Nat
deriving DecidableEq, Repr

/-- A date, or an instant: a date with a time of day and perhaps an offset from UTC in
microseconds. -/
inductive Moment
  | date (d : Date)
  | instant (d : Date) (c : Clock) (offset : Option Int)
deriving DecidableEq, Repr

/-! ## Calendar -/

namespace Date

def isLeap (year : Nat) : Bool :=
  year % 4 == 0 && (year % 100 != 0 || year % 400 == 0)

def daysIn (year month : Nat) : Nat :=
  if month == 2 then (if isLeap year then 29 else 28)
  else if month == 4 || month == 6 || month == 9 || month == 11 then 30
  else 31

/-- Whether the day exists, in the years 1 to 9999. -/
def isValid (d : Date) : Bool :=
  1 ≤ d.year && d.year ≤ 9999 && 1 ≤ d.month && d.month ≤ 12 && 1 ≤ d.day &&
    d.day ≤ daysIn d.year d.month

def daysBeforeYear (year : Nat) : Int :=
  let y : Int := year - 1
  365 * y + y / 4 - y / 100 + y / 400

def daysBeforeMonth (year : Nat) : Nat → Nat
  | 0 => 0
  | m + 1 => if m == 0 then 0 else daysBeforeMonth year m + daysIn year m

/-- The number of the day, the first of January of year 1 being day 1. -/
def ordinal (d : Date) : Int :=
  daysBeforeYear d.year + daysBeforeMonth d.year d.month + d.day

/-- The day of the week, Monday being 0. -/
def weekday (d : Date) : Int :=
  (d.ordinal + 6) % 7

/-- The date that lies `rest` days after the last day before a month, at most `months` months on. -/
def ofDayOfYear (year month rest : Nat) : Nat → Date
  | 0 => ⟨year, month, rest⟩
  | months + 1 =>
    if rest ≤ daysIn year month then ⟨year, month, rest⟩
    else ofDayOfYear year (month + 1) (rest - daysIn year month) months

def ofOrdinal (n : Int) : Date :=
  let guess := ((n - 1) * 400 / 146097 + 1).toNat
  let year := if daysBeforeYear (guess + 1) < n then guess + 1
    else if daysBeforeYear guess < n then guess else guess - 1
  ofDayOfYear year 1 (n - daysBeforeYear year).toNat 12

end Date

def Clock.isValid (c : Clock) : Bool :=
  c.hour < 24 && c.minute < 60 && c.second < 60 && c.micro < 1000000

namespace Moment

def dayLength : Int := 86400000000

def isValidOffset (offset : Int) : Bool :=
  -dayLength < offset && offset < dayLength

/-- Whether the day, the time of day and the offset exist. -/
def isValid : Moment → Bool
  | date d => d.isValid
  | instant d c offset => d.isValid && c.isValid && offset.all isValidOffset

/-! ## The time line -/

/-- The microseconds of a time of day since midnight. -/
def clockMicroseconds (c : Clock) : Int :=
  (((c.hour * 60 + c.minute) * 60 + c.second) * 1000000 + c.micro : Nat)

/-- The place of a moment on the time line, in microseconds. A moment without an offset is placed as
if it had offset zero. -/
def microseconds : Moment → Int
  | date d => d.ordinal * dayLength
  | instant d c offset => d.ordinal * dayLength + clockMicroseconds c - offset.getD 0

def hasOffset : Moment → Bool
  | instant _ _ (some _) => true
  | _ => false

/-! ## Written forms -/

def padded (width n : Nat) : String :=
  let ds := toString n
  String.ofList (List.replicate (width - ds.length) '0') ++ ds

/-- A date as `2017-01-31`. -/
def dateText (d : Date) : String :=
  padded 4 d.year ++ "-" ++ padded 2 d.month ++ "-" ++ padded 2 d.day

/-- A time of day as `10:00:00`, with six more digits when there is a fraction. -/
def clockText (c : Clock) : String :=
  padded 2 c.hour ++ ":" ++ padded 2 c.minute ++ ":" ++ padded 2 c.second ++
    (if c.micro == 0 then "" else "." ++ padded 6 c.micro)

/-- An offset as `+02:00`, with seconds and a fraction only when there are any. -/
def offsetText (offset : Int) : String :=
  let n := offset.natAbs
  let seconds := n / 1000000
  let micro := n % 1000000
  (if offset < 0 then "-" else "+") ++ padded 2 (seconds / 3600) ++ ":" ++
    padded 2 (seconds / 60 % 60) ++
    (if seconds % 60 == 0 && micro == 0 then "" else ":" ++ padded 2 (seconds % 60)) ++
    (if micro == 0 then "" else "." ++ padded 6 micro)

/-- The written form, with a separator between the date and the time of day. -/
def isoText (separator : String) : Moment → String
  | date d => dateText d
  | instant d c offset =>
    dateText d ++ separator ++ clockText c ++ (offset.map offsetText).getD ""

end Moment

end KubeManifest
