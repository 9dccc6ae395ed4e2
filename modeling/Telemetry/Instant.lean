import Telemetry.Double

namespace Telemetry

/-!
# Instants

An instant is a count of whole seconds since the Unix epoch, as a signed 64-bit word,
and a remainder of nanoseconds below one second.  Instants before the epoch have
negative seconds and still a non-negative remainder.

* `Instant.new` — carries whole seconds out of the nanoseconds; seconds saturate.
* `Instant.ofDouble` — fractional seconds, rounded to the nearest nanosecond.
* `Instant.afterEpoch`, `Instant.beforeEpoch` — a duration counted from the epoch.
* `Instant.total` — the instant as one integer of nanoseconds, which orders instants.
-/

/-- The integer as a signed 64-bit word, kept at the nearest end when it does not fit. -/
def saturate (n : Int) : Int64 :=
  Int64.ofInt (max (-0x8000000000000000) (min n 0x7fffffffffffffff))

/-- A saturated integer is the nearest one that a signed word holds. -/
theorem toInt_saturate (n : Int) :
    (saturate n).toInt = max (-0x8000000000000000) (min n 0x7fffffffffffffff) := by
  unfold saturate
  rw [Int64.toInt_ofInt_of_le] <;> omega

/-- A point in time. -/
structure Instant where
  secs : Int64
  nanos : Nat
  nanos_lt : nanos < 1000000000 := by decide
deriving DecidableEq, Repr

namespace Instant

/-- 1970-01-01 00:00:00 UTC. -/
def epoch : Instant := ⟨0, 0, by decide⟩

instance : Inhabited Instant := ⟨epoch⟩

/-- The instant `secs` seconds and `nanos` nanoseconds after the epoch, whole seconds
    being carried out of the nanoseconds. -/
def new (secs : Int64) (nanos : Nat) : Instant where
  secs := saturate (secs.toInt + (nanos / 1000000000 : Nat))
  nanos := nanos % 1000000000
  nanos_lt := Nat.mod_lt _ (by decide)

/-- A whole number of seconds. -/
def ofSecs (secs : Int64) : Instant := ⟨secs, 0, by decide⟩

/-- Fractional seconds.  A NaN or an infinity gives the epoch.  The fraction above the
    whole seconds is first a double, is then scaled to nanoseconds as a double, and goes
    to the nearest integer, a half upward. -/
def ofDouble (x : Double) : Instant :=
  if x.isFinite then
    let (whole, num, den) := x.floorParts
    let part := Double.ofRatio false num den
    let (n, d) := (part.mul (Double.ofNat 1000000000)).ratio
    new (saturate whole) ((2 * n + d) / (2 * d))
  else epoch

/-- The instant a duration after the epoch; the seconds are taken as a signed word. -/
def afterEpoch (secs : UInt64) (nanos : Nat) : Instant := new secs.toInt64 nanos

/-- The instant a duration before the epoch; a fraction borrows one second. -/
def beforeEpoch (secs : UInt64) (nanos : Nat) : Instant :=
  if nanos = 0 then ofSecs (-secs.toInt64)
  else new (-secs.toInt64 - 1) (1000000000 - nanos)

/-- Nanoseconds since the epoch. -/
def total (t : Instant) : Int := t.secs.toInt * 1000000000 + t.nanos

/-- Earlier or at the same time: by seconds, then by nanoseconds. -/
def le (s t : Instant) : Bool :=
  decide (s.secs < t.secs) || (s.secs == t.secs && decide (s.nanos ≤ t.nanos))

/-- The instants in ascending order, each once. -/
def sortDistinct (ts : List Instant) : List Instant :=
  (ts.mergeSort le).eraseReps

/-- A calendar in years -262143 to 262142 has a date for the instant. -/
def hasDate (t : Instant) : Bool :=
  decide (-8334601228800 ≤ t.secs.toInt) && decide (t.secs.toInt ≤ 8210266876799)

/-! ### Total order -/

/-- Instants are ordered as their nanoseconds are. -/
theorem le_iff_total_le (s t : Instant) : s.le t = true ↔ s.total ≤ t.total := by
  have hs := s.nanos_lt
  have ht := t.nanos_lt
  simp only [le, total, Bool.or_eq_true, decide_eq_true_eq, Bool.and_eq_true, beq_iff_eq,
    Int64.lt_iff_toInt_lt, ← Int64.toInt_inj]
  omega

/-- An instant is told by its nanoseconds. -/
theorem total_inj {s t : Instant} (h : s.total = t.total) : s = t := by
  have hs := s.nanos_lt
  have ht := t.nanos_lt
  simp only [total] at h
  have hsecs : s.secs = t.secs := Int64.toInt_inj.1 (by omega)
  have hnanos : s.nanos = t.nanos := by rw [hsecs] at h; omega
  cases s; cases t; simp_all

/-- The constructor stands for exactly its arguments while the seconds do not saturate. -/
theorem total_new (secs : Int64) (nanos : Nat)
    (h : secs.toInt + (nanos / 1000000000 : Nat) < 0x8000000000000000) :
    (new secs nanos).total = secs.toInt * 1000000000 + nanos := by
  have hlow := Int64.le_toInt secs
  simp only [total, new, toInt_saturate]
  omega

end Instant

end Telemetry
