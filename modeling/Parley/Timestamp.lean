/-! # Timestamps

A moment as a calendar date, a time of day and the distance of the local clock from universal
time, as RFC 3339 writes it. Moments are compared on the universal time line.
-/

namespace Parley

/-- A moment on a local clock, `offset` minutes ahead of universal time. -/
structure Timestamp where
  year : Nat
  month : Nat
  day : Nat
  hour : Nat
  minute : Nat
  second : Nat
  nanosecond : Nat
  offset : Int
  deriving DecidableEq, Repr, Inhabited

namespace Timestamp

def isLeapYear (year : Int) : Bool :=
  year % 4 == 0 && (year % 100 != 0 || year % 400 == 0)

def daysIn (year : Int) (month : Nat) : Nat :=
  if month = 2 then (if isLeapYear year then 29 else 28)
  else if month = 4 ∨ month = 6 ∨ month = 9 ∨ month = 11 then 30
  else 31

/-- The dates and times that exist in the years 0 to 9999, with less than a day between the local
and the universal clock. -/
def Valid (t : Timestamp) : Prop :=
  t.year ≤ 9999 ∧ 1 ≤ t.month ∧ t.month ≤ 12 ∧ 1 ≤ t.day ∧ t.day ≤ daysIn t.year t.month ∧
    t.hour < 24 ∧ t.minute < 60 ∧ t.second < 60 ∧ t.nanosecond < 1000000000 ∧
    t.offset.natAbs < 1440

instance (t : Timestamp) : Decidable t.Valid :=
  inferInstanceAs (Decidable (_ ∧ _))

/-- The number of days from 1970-01-01 to a date. Years count from March, so that the leap day
comes last. -/
def dayNumber (year : Int) (month day : Nat) : Int :=
  let y := if month ≤ 2 then year - 1 else year
  let m := if month ≤ 2 then month + 9 else month - 3
  let era := y.fdiv 400
  let yearOfEra := y - era * 400
  let dayOfYear : Int := (153 * m + 2) / 5 + day - 1
  era * 146097 + (yearOfEra * 365 + yearOfEra / 4 - yearOfEra / 100 + dayOfYear) - 719468

def ofDayNumber (n : Int) : Int × Nat × Nat :=
  let z := n + 719468
  let era := z.fdiv 146097
  let dayOfEra := z - era * 146097
  let yearOfEra :=
    (dayOfEra - dayOfEra / 1460 + dayOfEra / 36524 - dayOfEra / 146096) / 365
  let dayOfYear := dayOfEra - (365 * yearOfEra + yearOfEra / 4 - yearOfEra / 100)
  let m := (5 * dayOfYear + 2) / 153
  let day := (dayOfYear - (153 * m + 2) / 5 + 1).toNat
  let month := (if m < 10 then m + 3 else m - 9).toNat
  (yearOfEra + era * 400 + (if month ≤ 2 then 1 else 0), month, day)

def nanosPerDay : Int := 86400000000000

/-- Nanoseconds on the local clock since 1970-01-01. -/
def localNanos (t : Timestamp) : Int :=
  dayNumber t.year t.month t.day * nanosPerDay +
    (((t.hour * 60 + t.minute) * 60 + t.second) * 1000000000 + t.nanosecond : Nat)

/-- Nanoseconds of universal time since 1970-01-01. -/
def instant (t : Timestamp) : Int :=
  t.localNanos - t.offset * 60000000000

def ofLocalNanos (nanos offset : Int) : Timestamp :=
  let days := nanos.fdiv nanosPerDay
  let rest := (nanos - days * nanosPerDay).toNat
  let date := ofDayNumber days
  let seconds := rest / 1000000000
  { year := date.1.toNat
    month := date.2.1
    day := date.2.2
    hour := seconds / 3600
    minute := seconds / 60 % 60
    second := seconds % 60
    nanosecond := rest % 1000000000
    offset }

/-- The moment some milliseconds later, on the same clock. -/
def addMillis (t : Timestamp) (ms : Int) : Timestamp :=
  ofLocalNanos (t.localNanos + ms * 1000000) t.offset

/-- Whether a moment is in the last second of a month of universal time, where leap seconds are
put. -/
def endsMonth (t : Timestamp) : Bool :=
  let days := t.instant.fdiv nanosPerDay
  let date := ofDayNumber days
  (t.instant - days * nanosPerDay) / 1000000000 == 86399 && date.2.2 == daysIn date.1 date.2.1

def padded (width n : Nat) : List Char :=
  let ds := Nat.toDigits 10 n
  List.replicate (width - ds.length) '0' ++ ds

def clockChars (t : Timestamp) : List Char :=
  padded 2 t.hour ++ ':' :: (padded 2 t.minute ++ ':' :: padded 2 t.second)

/-- The time of day on the local clock. -/
def clock (t : Timestamp) : String :=
  String.ofList t.clockChars

def fraction (nanosecond : Nat) : List Char :=
  if nanosecond = 0 then []
  else '.' :: ((padded 9 nanosecond).reverse.dropWhile (· == '0')).reverse

/-- The distance from universal time. -/
def zone (offset : Int) : List Char :=
  if offset = 0 then ['Z']
  else
    (if offset < 0 then '-' else '+') ::
      (padded 2 (offset.natAbs / 60) ++ ':' :: padded 2 (offset.natAbs % 60))

/-- A moment as RFC 3339 writes it. -/
def toChars (t : Timestamp) : List Char :=
  padded 4 t.year ++ '-' :: (padded 2 t.month ++ '-' :: (padded 2 t.day ++
    'T' :: (t.clockChars ++ (fraction t.nanosecond ++ zone t.offset))))

def text (t : Timestamp) : String :=
  String.ofList t.toChars

def digit? (c : Char) : Option Nat :=
  if '0' ≤ c ∧ c ≤ '9' then some (c.toNat - '0'.toNat) else none

def number? (cs : List Char) : Option Nat :=
  (cs.mapM digit?).map fun ds => ds.foldl (fun n d => n * 10 + d) 0

/-- Reads decimal places of a second as nanoseconds; places beyond the ninth do not count. -/
def fraction? : List Char → Option (Nat × List Char)
  | '.' :: rest =>
    let ds := rest.takeWhile (digit? · |>.isSome)
    if ds.isEmpty then none
    else
      (number? ((ds ++ List.replicate 9 '0').take 9)).map fun n =>
        (n, rest.dropWhile (digit? · |>.isSome))
  | rest => some (0, rest)

def zone? : List Char → Option Int
  | ['Z'] | ['z'] => some 0
  | [sign, h₁, h₂, ':', m₁, m₂] => do
    let hours ← number? [h₁, h₂]
    let minutes ← number? [m₁, m₂]
    if hours ≤ 23 ∧ minutes ≤ 59 then
      let distance : Int := hours * 60 + minutes
      if sign = '+' then some distance else if sign = '-' then some (-distance) else none
    else none
  | _ => none

/-- Reads a moment. Any one ASCII character may separate date and time. A leap second is taken for
the last nanosecond before it, and stands only at the end of a month. -/
def ofChars? : List Char → Option Timestamp
  | y₁ :: y₂ :: y₃ :: y₄ :: '-' :: m₁ :: m₂ :: '-' :: d₁ :: d₂ :: separator ::
      h₁ :: h₂ :: ':' :: n₁ :: n₂ :: ':' :: s₁ :: s₂ :: rest => do
    let year ← number? [y₁, y₂, y₃, y₄]
    let month ← number? [m₁, m₂]
    let day ← number? [d₁, d₂]
    let hour ← number? [h₁, h₂]
    let minute ← number? [n₁, n₂]
    let second ← number? [s₁, s₂]
    let (nanosecond, rest) ← fraction? rest
    let offset ← zone? rest
    let leap := second == 60
    let t : Timestamp :=
      { year, month, day, hour, minute, offset
        second := if leap then 59 else second
        nanosecond := if leap then 999999999 else nanosecond }
    if t.Valid ∧ separator.toNat < 0x80 ∧ (leap → t.endsMonth) then some t else none
  | _ => none

def parse? (text : String) : Option Timestamp :=
  ofChars? text.toList

end Timestamp

end Parley
