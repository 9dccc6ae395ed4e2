import Mathlib.Algebra.Order.Ring.Nat
import Telemetry.Instant.Rfc3339

namespace Telemetry

/-!
# Exact instants

However an instant is made, its nanoseconds stay below one second, and so the order by seconds and
then by nanoseconds is that of the instants as integers.  An instant that is made of parts stands
for exactly these parts, unless its seconds are at the upper end; one that is made of a reading of
the system's clock stands for exactly this reading.

* `Instant.cmp`, `Instant.cmp_eq_compare_total` — the order; `Instant.le_eq_isLE_cmp` — instants are
  sorted by it.
* `Span`, `ClockTime` — readings of the clock, after or before the epoch.
* `ClockTime.checked?` — an instant made of a reading where each operation on words must not
  overflow; `ClockTime.checked?_eq_some` — none of them does.
* `Origin` — all that an instant can be made of.
* `Origin.exact_instant` — what is made of it.
-/

namespace Instant

/-! ### Order -/

/-- By seconds, then by nanoseconds. -/
def cmp (s t : Instant) : Ordering := (compare s.secs t.secs).then (compare s.nanos t.nanos)

/-- **The order of instants** is that of the integers which they are. -/
theorem cmp_eq_compare_total (s t : Instant) : s.cmp t = compare s.total t.total := by
  have hs := s.nanos_lt
  have ht := t.nanos_lt
  rcases Int.lt_trichotomy s.secs.toInt t.secs.toInt with hlt | heq | hgt
  · have hsecs : compare s.secs t.secs = .lt := Std.compare_eq_lt.2 (Int64.lt_iff_toInt_lt.2 hlt)
    have htotal : compare s.total t.total = .lt :=
      Std.compare_eq_lt.2 (by simp only [total]; omega)
    rw [cmp, hsecs, htotal]
    rfl
  · -- The seconds are equal, and the nanoseconds decide.
    rw [cmp, Int64.toInt_inj.1 heq, Std.compare_self, Ordering.eq_then]
    simp only [total, heq]
    rcases Nat.lt_trichotomy s.nanos t.nanos with hn | hn | hn
    · rw [Std.compare_eq_lt.2 hn, Std.compare_eq_lt.2 (by omega)]
    · rw [hn, Std.compare_self, Std.compare_self]
    · rw [Std.compare_eq_gt.2 hn, Std.compare_eq_gt.2 (by omega)]
  · have hsecs : compare s.secs t.secs = .gt := Std.compare_eq_gt.2 (Int64.lt_iff_toInt_lt.2 hgt)
    have htotal : compare s.total t.total = .gt :=
      Std.compare_eq_gt.2 (by simp only [total]; omega)
    rw [cmp, hsecs, htotal]
    rfl

/-- Instants are sorted in this order. -/
theorem le_eq_isLE_cmp (s t : Instant) : s.le t = (s.cmp t).isLE := by
  rw [cmp_eq_compare_total, Bool.eq_iff_iff, le_iff_total_le, Std.isLE_compare]

/-- At the upper end the seconds stay where they are. -/
theorem secs_new_of_le {secs : Int64} {nanos : Nat}
    (h : 0x7fffffffffffffff ≤ secs.toInt + (nanos / 1000000000 : Nat)) :
    (new secs nanos).secs.toInt = 0x7fffffffffffffff := by
  simp only [new, toInt_saturate]
  omega

end Instant

/-! ### Readings of the clock -/

/-- A length of time. -/
structure Span where
  secs : UInt64
  nanos : Nat
  nanos_lt : nanos < 1000000000 := by decide

/-- In nanoseconds. -/
def Span.total (d : Span) : Nat := d.secs.toNat * 1000000000 + d.nanos

/-- A reading of the system's clock, so long after the epoch or before it. -/
inductive ClockTime where
  | after (d : Span)
  | before (d : Span)

namespace ClockTime

/-- In nanoseconds since the epoch. -/
def total : ClockTime → Int
  | after d => d.total
  | before d => -d.total

/-- The instant that is made of it. -/
def instant : ClockTime → Instant
  | after d => .afterEpoch d.secs d.nanos
  | before d => .beforeEpoch d.secs d.nanos

/-- Less than 2^63 seconds from the epoch. -/
def InReach (c : ClockTime) : Prop := c.total.natAbs < 0x8000000000000000 * 1000000000

/-- How far it is from the epoch. -/
def span : ClockTime → Span
  | after d => d
  | before d => d

/-- What is in reach has fewer than 2^63 whole seconds, before the epoch and after it. -/
theorem InReach.secs_lt {c : ClockTime} (h : c.InReach) :
    c.span.secs.toNat < 0x8000000000000000 := by
  cases c <;> simp only [InReach, total, Span.total] at h <;> simp only [span] <;> omega

/-! ### Overflow -/

/-- The integer as a signed word, if it is one. -/
def word? (n : Int) : Option Int64 :=
  if -0x8000000000000000 ≤ n ∧ n < 0x8000000000000000 then some (Int64.ofInt n) else none

/-- The integer as an unsigned word of half the size, if it is one. -/
def half? (n : Int) : Option Nat := if 0 ≤ n ∧ n < 0x100000000 then some n.toNat else none

/-- The instant of these parts, when their sum is a word. -/
def new? (secs : Int64) (nanos : Nat) : Option Instant :=
  (word? (secs.toInt + (nanos / 1000000000 : Nat))).map fun s =>
    ⟨s, nanos % 1000000000, (Instant.new secs nanos).nanos_lt⟩

/-- The instant that is made of a reading, when no operation on the way overflows: the seconds as a
    signed word, their negation, the second that a fraction borrows, and what is left of it. -/
def checked? : ClockTime → Option Instant
  | after d => (word? d.secs.toNat).bind fun s => new? s d.nanos
  | before d =>
    (word? d.secs.toNat).bind fun s => (word? (-s.toInt)).bind fun s =>
      if d.nanos = 0 then some (.ofSecs s)
      else (word? (s.toInt - 1)).bind fun s => (half? (1000000000 - d.nanos)).bind fun n => new? s n

/-- An integer between the bounds of a signed word is one. -/
theorem word?_of_fits {n : Int} (h : -0x8000000000000000 ≤ n ∧ n < 0x8000000000000000) :
    word? n = some (Int64.ofInt n) := if_pos h

/-- Such an integer is not changed by its conversion to a word. -/
theorem toInt_ofInt_of_fits {n : Int} (h : -0x8000000000000000 ≤ n ∧ n < 0x8000000000000000) :
    (Int64.ofInt n).toInt = n := Int64.toInt_ofInt_of_le h.1 h.2

/-- What is missing from a second fits half a word. -/
theorem half?_sub {nanos : Nat} (h : nanos < 1000000000) :
    half? (1000000000 - nanos) = some (1000000000 - nanos) := by
  rw [half?, if_pos (by omega)]
  exact congrArg some (by omega)

/-- Nanoseconds below one second carry nothing. -/
theorem new?_eq_some (secs : Int64) {nanos : Nat} (h : nanos < 1000000000) :
    new? secs nanos = some (.new secs nanos) := by
  have hlow := Int64.le_toInt secs
  have hhigh := Int64.toInt_lt secs
  have hcarry : nanos / 1000000000 = 0 := Nat.div_eq_of_lt h
  have hsum : secs.toInt + (nanos / 1000000000 : Nat) = secs.toInt := by
    rw [hcarry]
    exact Int.add_zero _
  have hsaturate : saturate secs.toInt = secs := by
    rw [← Int64.toInt_inj, toInt_saturate]
    omega
  rw [new?, hsum, word?_of_fits ⟨hlow, hhigh⟩, Option.map_some, Int64.ofInt_toInt]
  simp only [Instant.new, hsum, hsaturate]

/-- The conversion of an unsigned word reduces it modulo 2^64, as that of an integer does. -/
theorem toInt64_eq_ofInt (secs : UInt64) : secs.toInt64 = Int64.ofInt secs.toNat := by
  rw [Int64.ofInt_eq_ofNat, ← UInt64.toInt64_ofNat', UInt64.ofNat_toNat]

/-- After the epoch an instant has the seconds and nanoseconds of the span. -/
theorem instant_after (d : Span) : (after d).instant = .new (Int64.ofInt d.secs.toNat) d.nanos := by
  rw [instant, Instant.afterEpoch, toInt64_eq_ofInt]

/-- Before the epoch the seconds are rounded down, so that nanoseconds count up from them. -/
theorem instant_before (d : Span) :
    (before d).instant = if d.nanos = 0 then .ofSecs (Int64.ofInt (-d.secs.toNat))
      else .new (Int64.ofInt (-d.secs.toNat - 1)) (1000000000 - d.nanos) := by
  rw [instant, Instant.beforeEpoch, toInt64_eq_ofInt, Int64.ofInt_sub, Int64.ofInt_neg]
  rfl

/-- **No operation overflows** when an instant is made of a reading in reach. -/
theorem checked?_eq_some {c : ClockTime} (h : c.InReach) : c.checked? = some c.instant := by
  cases c with
  | after d =>
    have hsecs : d.secs.toNat < 0x8000000000000000 := h.secs_lt
    have hfits : -0x8000000000000000 ≤ (d.secs.toNat : Int) ∧
      (d.secs.toNat : Int) < 0x8000000000000000 := by omega
    rw [checked?, word?_of_fits hfits, Option.bind_some, new?_eq_some _ d.nanos_lt, instant_after]
  | before d =>
    have hsecs : d.secs.toNat < 0x8000000000000000 := h.secs_lt
    have hfits : -0x8000000000000000 ≤ (d.secs.toNat : Int) ∧
      (d.secs.toNat : Int) < 0x8000000000000000 := by omega
    have hnegated : -0x8000000000000000 ≤ (-d.secs.toNat : Int) ∧
      (-d.secs.toNat : Int) < 0x8000000000000000 := by omega
    have hborrowed : -0x8000000000000000 ≤ (-d.secs.toNat - 1 : Int) ∧
      (-d.secs.toNat - 1 : Int) < 0x8000000000000000 := by omega
    rw [checked?, word?_of_fits hfits, Option.bind_some, toInt_ofInt_of_fits hfits,
      word?_of_fits hnegated, Option.bind_some, toInt_ofInt_of_fits hnegated, instant_before]
    by_cases hnanos : d.nanos = 0
    · rw [if_pos hnanos, if_pos hnanos]
    · -- What the fraction leaves of its second is below a second again.
      rw [if_neg hnanos, if_neg hnanos, word?_of_fits hborrowed, Option.bind_some,
        half?_sub d.nanos_lt, Option.bind_some, new?_eq_some _ (by omega)]

/-- **An instant that is made of a reading in reach** stands for exactly this reading. -/
theorem total_instant {c : ClockTime} (h : c.InReach) : c.instant.total = c.total := by
  cases c with
  | after d =>
    have hsecs : d.secs.toNat < 0x8000000000000000 := h.secs_lt
    have hnanos := d.nanos_lt
    have htoInt := toInt_ofInt_of_fits (n := d.secs.toNat) (by omega)
    rw [instant_after, Instant.total_new _ _ (by omega), htoInt, total, Span.total]
    omega
  | before d =>
    have hsecs : d.secs.toNat < 0x8000000000000000 := h.secs_lt
    have hlt := d.nanos_lt
    rw [instant_before]
    by_cases hnanos : d.nanos = 0
    · have htoInt := toInt_ofInt_of_fits (n := -d.secs.toNat) (by omega)
      rw [if_pos hnanos]
      simp only [Instant.total, Instant.ofSecs, htoInt, total, Span.total]
      omega
    · have htoInt := toInt_ofInt_of_fits (n := -d.secs.toNat - 1) (by omega)
      rw [if_neg hnanos, Instant.total_new _ _ (by omega), htoInt, total, Span.total]
      omega

end ClockTime

/-! ### Dates -/

/-- A date, counted: seconds since the epoch and nanoseconds, which go on into a second second
    while a leap second lasts. -/
structure DateCount where
  secs : Int64
  nanos : Nat
  nanos_lt : nanos < 2000000000 := by decide

/-- The instant of a date. -/
def DateCount.instant (d : DateCount) : Instant := .new d.secs d.nanos

namespace Rfc3339

/-- Each digit that is appended multiplies the bound by ten. -/
theorem ofDigitChars_lt {ds : List Char} (hds : ∀ c ∈ ds, c.isDigit = true) {start k : Nat}
    (hstart : start < 10 ^ k) : Nat.ofDigitChars 10 ds start < 10 ^ (k + ds.length) := by
  induction ds generalizing start k with
  | nil => exact hstart
  | cons d ds ih =>
    obtain ⟨hd, hds⟩ := List.forall_mem_cons.1 hds
    have hnine : d.toNat ≤ 57 := (Char.isDigit_iff_toNat.1 hd).2
    have hzero : '0'.toNat = 48 := rfl
    -- One digit more is one power of ten more.
    rw [Nat.ofDigitChars_cons, List.length_cons, Nat.add_comm ds.length, ← Nat.add_assoc]
    refine ih hds ?_
    rw [Nat.pow_succ]
    omega

/-- Nine digits of a fraction are nanoseconds below one second. -/
theorem nanos_lt_of_readFraction {s rest : List Char} {nanos : Nat}
    (h : readFraction s = some (nanos, rest)) : nanos < 1000000000 := by
  unfold readFraction at h
  split at h
  · rename_i s
    simp only at h
    split at h
    · cases h
    · obtain ⟨rfl, -⟩ := Prod.mk.inj (Option.some.inj h)
      have hlength : ((s.takeWhile Char.isDigit).take 9).length ≤ 9 := List.length_take_le 9 _
      have hdigits : ∀ c ∈ (s.takeWhile Char.isDigit).take 9, c.isDigit = true := fun c hc =>
        List.all_eq_true.1 List.all_takeWhile c (List.mem_of_mem_take hc)
      have hlt : Nat.ofDigitChars 10 ((s.takeWhile Char.isDigit).take 9) 0 <
          10 ^ (0 + ((s.takeWhile Char.isDigit).take 9).length) :=
        ofDigitChars_lt hdigits (by decide)
      rw [Nat.zero_add] at hlt
      -- As many zeros as there are digits too few.
      calc Nat.ofDigitChars 10 ((s.takeWhile Char.isDigit).take 9) 0 *
            Nat.pow 10 (9 - ((s.takeWhile Char.isDigit).take 9).length)
          < 10 ^ ((s.takeWhile Char.isDigit).take 9).length *
            10 ^ (9 - ((s.takeWhile Char.isDigit).take 9).length) :=
            Nat.mul_lt_mul_of_pos_right hlt (Nat.pow_pos (by decide))
        _ = 10 ^ 9 := by rw [← Nat.pow_add, Nat.add_sub_cancel' hlength]
  · obtain ⟨rfl, -⟩ := Prod.mk.inj (Option.some.inj h)
    decide

/-- The fraction of a text that was read is less than a second. -/
theorem nanos_lt_of_read {s : List Char} {p : Parts} (h : read s = some p) :
    p.nanos < 1000000000 := by
  unfold read at h
  -- Before the fraction there are six numbers and five signs between them.
  iterate 11 obtain ⟨_, -, h⟩ := Option.bind_eq_some_iff.1 h
  obtain ⟨r, hfraction, h⟩ := Option.bind_eq_some_iff.1 h
  obtain ⟨_, -, h⟩ := Option.bind_eq_some_iff.1 h
  simp only at h
  split at h
  · rw [← Option.some.inj h]
    exact nanos_lt_of_readFraction hfraction
  · cases h

/-- The instant of a text is that of a date. -/
theorem exists_date {s : List Char} {t : Instant} (h : instant? s = some t) :
    ∃ d : DateCount, d.instant = t := by
  obtain ⟨p, hp, rfl⟩ := Option.map_eq_some_iff.1 h
  have hlt := nanos_lt_of_read hp
  refine ⟨⟨_, p.nanos + (if p.second = 60 then 1000000000 else 0), ?_⟩, rfl⟩
  split <;> omega

end Rfc3339

/-! ### All origins -/

/-- What an instant can be made of. -/
inductive Origin where
  | parts (secs : Int64) (nanos : UInt32)
  | whole (secs : Int64)
  | fraction (x : Double)
  | clock (c : ClockTime)
  | date (d : DateCount)

/-- The instant that is made of it. -/
def Origin.instant : Origin → Instant
  | parts secs nanos => .new secs nanos.toNat
  | whole secs => .ofSecs secs
  | fraction x => .ofDouble x
  | clock c => c.instant
  | date d => d.instant

/-- **Exact instants.** Whatever an instant is made of, its nanoseconds are below one second, and
    the order of two instants, by which they are sorted too, is that of the integers which they
    are; the instant of an RFC 3339 text is that of a date.  Seconds and nanoseconds make the
    instant of exactly so many nanoseconds, as long as the seconds are a word after the carry, and
    otherwise the seconds are at the upper end.  A reading of the clock in reach makes an instant
    that stands for exactly this reading, without an overflow on the way; so two of them keep their
    order. -/
theorem Origin.exact_instant :
    (∀ o p : Origin, o.instant.nanos < 1000000000 ∧
      o.instant.cmp p.instant = compare o.instant.total p.instant.total ∧
      o.instant.le p.instant = (o.instant.cmp p.instant).isLE) ∧
    (∀ s t, Rfc3339.instant? s = some t → ∃ d, (Origin.date d).instant = t) ∧
    (∀ (secs : Int64) (nanos : UInt32),
      (secs.toInt + (nanos.toNat / 1000000000 : Nat) ≤ 0x7fffffffffffffff →
        (Origin.parts secs nanos).instant.total = secs.toInt * 1000000000 + nanos.toNat) ∧
      (0x7fffffffffffffff ≤ secs.toInt + (nanos.toNat / 1000000000 : Nat) →
        (Origin.parts secs nanos).instant.secs.toInt = 0x7fffffffffffffff)) ∧
    (∀ c : ClockTime, c.InReach →
      (Origin.clock c).instant.total = c.total ∧ c.checked? = some (Origin.clock c).instant) ∧
    (∀ c d : ClockTime, c.InReach → d.InReach →
      (Origin.clock c).instant.cmp (Origin.clock d).instant = compare c.total d.total) := by
  refine ⟨?_, ?_, ?_, ?_, ?_⟩
  · intro o p
    exact ⟨o.instant.nanos_lt, Instant.cmp_eq_compare_total _ _, Instant.le_eq_isLE_cmp _ _⟩
  · intro s t h
    exact Rfc3339.exists_date h
  · intro secs nanos
    refine ⟨fun h => ?_, Instant.secs_new_of_le⟩
    exact Instant.total_new secs nanos.toNat (by omega)
  · intro c hc
    exact ⟨ClockTime.total_instant hc, ClockTime.checked?_eq_some hc⟩
  · intro c d hc hd
    show c.instant.cmp d.instant = compare c.total d.total
    rw [Instant.cmp_eq_compare_total, ClockTime.total_instant hc, ClockTime.total_instant hd]

/-- A leap second with a half; nanoseconds that carry two seconds, and one second beyond the last;
    the earliest reading in reach, whose fraction borrows the first second there is, and a reading
    one nanosecond before the epoch. -/
theorem Origin.exact_instant_ends :
    let leap := "2016-12-31T23:59:60.5Z".toList
    let c := ClockTime.before ⟨0x7fffffffffffffff, 999999999, by decide⟩
    let d := ClockTime.before ⟨0, 1, by decide⟩
    (Rfc3339.instant? leap = some ⟨1483228800, 500000000, by decide⟩ ∧
      ∃ d, (Origin.date d).instant = ⟨1483228800, 500000000, by decide⟩) ∧
    (Origin.parts 10 2500000000).instant.total = 12500000000 ∧
    (Origin.parts 0x7fffffffffffffff 1000000000).instant.secs.toInt = 0x7fffffffffffffff ∧
    c.InReach ∧ d.InReach ∧ (Origin.clock c).instant = ⟨-0x8000000000000000, 1, by decide⟩ ∧
      (Origin.clock c).instant.total = c.total ∧
      (Origin.clock c).instant.cmp (Origin.clock d).instant = .lt := by
  intro leap c d
  have hleap : Rfc3339.instant? leap = some ⟨1483228800, 500000000, by decide⟩ := by
    decide +kernel
  have hc : c.InReach := by unfold ClockTime.InReach; decide
  have hd : d.InReach := by unfold ClockTime.InReach; decide
  have hsum := (exact_instant.2.2.1 10 2500000000).1 (by decide)
  have hend := (exact_instant.2.2.1 0x7fffffffffffffff 1000000000).2 (by decide)
  refine ⟨⟨hleap, exact_instant.2.1 leap _ hleap⟩, hsum, hend, hc, hd, by decide,
    (exact_instant.2.2.2.1 c hc).1, ?_⟩
  rw [exact_instant.2.2.2.2 c d hc hd]
  decide

end Telemetry
