import Telemetry.Instant

namespace Telemetry.Rfc3339

/-!
# RFC 3339 dates

A date and time of day with its offset from UTC, such as `2016-11-08T17:40:43.878947Z`.

* `daysFromCivil` — days from 1970-01-01 to a date of the Gregorian calendar.
* `read` — the parts of a text; `Parts.instant` — the instant they denote.

A second of 60 is a leap second, in any minute: it follows second 59 and is counted as one
second more.  Digits of the fraction beyond the ninth are dropped.
-/

/-- Days in a month. -/
def daysInMonth (year month : Nat) : Nat :=
  if month = 2 then
    if year % 4 = 0 && (year % 100 ≠ 0 || year % 400 = 0) then 29 else 28
  else if month = 4 || month = 6 || month = 9 || month = 11 then 30
  else 31

/-- Days from 1970-01-01 to a date; years begin in March, so that a leap day is the last. -/
def daysFromCivil (year month day : Nat) : Int :=
  let y : Int := if month ≤ 2 then (year : Int) - 1 else year
  let era : Int := y.fdiv 400
  let yearOfEra : Int := y - era * 400
  let dayOfYear : Int := (153 * ((month + 9) % 12) + 2) / 5 + day - 1
  let dayOfEra : Int := yearOfEra * 365 + yearOfEra / 4 - yearOfEra / 100 + dayOfYear
  era * 146097 + dayOfEra - 719468

/-- The parts of a date. -/
structure Parts where
  year : Nat
  month : Nat
  day : Nat
  hour : Nat
  minute : Nat
  second : Nat
  nanos : Nat
  /-- seconds by which the local time is ahead of UTC -/
  offset : Int
deriving DecidableEq, Repr

/-- The parts name a date and a time of day. -/
def Parts.isValid (p : Parts) : Bool :=
  decide (1 ≤ p.month) && decide (p.month ≤ 12) && decide (1 ≤ p.day) &&
    decide (p.day ≤ daysInMonth p.year p.month) && decide (p.hour < 24) &&
    decide (p.minute < 60) && decide (p.second ≤ 60)

/-- The instant of a date. -/
def Parts.instant (p : Parts) : Instant :=
  let second := min p.second 59
  let nanos := p.nanos + (if p.second = 60 then 1000000000 else 0)
  let local_ : Int :=
    daysFromCivil p.year p.month p.day * 86400 + p.hour * 3600 + p.minute * 60 + second
  Instant.new (Int64.ofInt (local_ - p.offset)) nanos

/-! ### Reading -/

/-- A number of exactly `n` digits. -/
def readDigits (n : Nat) (s : List Char) : Option (Nat × List Char) :=
  let ds := s.take n
  if ds.length = n && ds.all Char.isDigit then some (Nat.ofDigitChars 10 ds 0, s.drop n) else none

/-- One given character. -/
def expect (c : Char) : List Char → Option (List Char)
  | d :: s => if c = d then some s else none
  | [] => none

/-- The fraction after a point, in nanoseconds; without a point it is zero. -/
def readFraction : List Char → Option (Nat × List Char)
  | '.' :: s =>
    let ds := s.takeWhile Char.isDigit
    let used := ds.take 9
    if ds.isEmpty then none
    else some (Nat.ofDigitChars 10 used 0 * Nat.pow 10 (9 - used.length), s.dropWhile Char.isDigit)
  | s => some (0, s)

/-- The offset from UTC, in seconds: `Z`, or a sign, hours and minutes. -/
def readOffset (s : List Char) : Option (Int × List Char) :=
  let numeric (sign : Int) (s : List Char) : Option (Int × List Char) := do
    let (hours, s) ← readDigits 2 s
    let s ← expect ':' s
    let (minutes, s) ← readDigits 2 s
    if hours < 24 && minutes < 60 then some (sign * (hours * 3600 + minutes * 60 : Nat), s)
    else none
  match s with
  | 'Z' :: s | 'z' :: s => some (0, s)
  | '+' :: s => numeric 1 s
  | '-' :: s | '−' :: s => numeric (-1) s
  | _ => none

/-- The mark between date and time. -/
def readMark : List Char → Option (List Char)
  | 'T' :: s | 't' :: s | ' ' :: s => some s
  | _ => none

/-- The parts of a whole text. -/
def read (s : List Char) : Option Parts := do
  let (year, s) ← readDigits 4 s
  let s ← expect '-' s
  let (month, s) ← readDigits 2 s
  let s ← expect '-' s
  let (day, s) ← readDigits 2 s
  let s ← readMark s
  let (hour, s) ← readDigits 2 s
  let s ← expect ':' s
  let (minute, s) ← readDigits 2 s
  let s ← expect ':' s
  let (second, s) ← readDigits 2 s
  let (nanos, s) ← readFraction s
  let (offset, s) ← readOffset s
  let p : Parts := ⟨year, month, day, hour, minute, second, nanos, offset⟩
  if s.isEmpty && p.isValid then some p else none

/-- The instant of a text. -/
def instant? (s : List Char) : Option Instant := (read s).map Parts.instant

end Telemetry.Rfc3339
