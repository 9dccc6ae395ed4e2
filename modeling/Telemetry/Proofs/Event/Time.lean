import Telemetry.Event.Time
import Telemetry.Proofs.Encoder.Cell

namespace Telemetry

/-!
# Times read back

An instant is written as the array of its seconds and nanoseconds, in a cell as well as in the
compact text of its document, and an event may have its time in this form.

* `Value.cell_time` — a cell and the compact text are the same.
* `Event.parseTime_timeDocument`, `Event.exists_parseTime_cell` — what is written is read as the
  same instant.
* `Event.parseTime_pair_eq_ok_iff`, `Event.exists_parseTime_pair_iff` — the arrays of two that are
  times; `Event.total_of_parseTime_pair` — what they stand for.
* `Event.parseTime_written` — an instant through its text, and all arrays of two.
-/

open Json (Document Number Numeral)

/-! ### As it is written -/

/-- **A time is written alike** in a cell and in the compact text of its document. -/
theorem Value.cell_time (mapsAsJson : Bool) (t : Instant) :
    (time t).cell mapsAsJson = (time t).toDocument.toText := by
  have hnanos : (toString t.nanos).toList = (toString (t.nanos : Int)).toList := by
    rw [Numeral.toList_toString_int, ← Numeral.toDigits_eq_chars_ofInt,
      Nat.toString_eq_ofList_toDigits, String.toList_ofList]
  rw [cell, cellChars, timeChars, hnanos, toDocument, timeDocument, Document.toText]
  simp [Document.chars, Document.itemsChars, Number.chars, Number.ofInt64]

/-- The document is an integer, and it is this one. -/
def Json.Document.IsInteger (d : Document) (n : Int) : Prop := ∃ fits, d = .number (.integer n fits)

namespace Event

/-! ### As it is read -/

/-- Seconds are integers that fit a signed word. -/
theorem seconds?_eq_some_iff {d : Document} {secs : Int64} :
    seconds? d = some secs ↔ d.IsInteger secs.toInt := by
  constructor
  · intro h
    unfold seconds? at h
    split at h
    · rename_i n fits
      split at h
      · rename_i hn
        rw [← Option.some.inj h, Int64.toInt_ofInt_of_le fits.1 hn]
        exact ⟨fits, rfl⟩
      · cases h
    · cases h
  · rintro ⟨fits, rfl⟩
    have hhigh : secs.toInt < 0x8000000000000000 := secs.toInt_lt
    simp only [seconds?]
    rw [if_pos hhigh, Int64.ofInt_toInt]

/-- Nanoseconds are integers that fit an unsigned word of half the size. -/
theorem nanos?_eq_some_iff {d : Document} {nanos : Nat} :
    nanos? d = some nanos ↔ d.IsInteger nanos ∧ nanos < 0x100000000 := by
  constructor
  · intro h
    unfold nanos? at h
    split at h
    · rename_i n fits
      split at h
      · rename_i hn
        obtain rfl := Option.some.inj h
        rw [Int.toNat_of_nonneg hn.1]
        exact ⟨⟨fits, rfl⟩, by omega⟩
      · cases h
    · cases h
  · rintro ⟨⟨fits, rfl⟩, hlt⟩
    simp only [nanos?]
    rw [if_pos (by omega), Int.toNat_natCast]

/-- **An array of two is a time** if the first is a signed word and the second an unsigned one of
    half the size. -/
theorem parseTime_pair_eq_ok_iff {s n : Document} {t : Instant} :
    parseTime (.array [s, n]) = .ok t ↔ ∃ (secs : Int64) (nanos : Nat), s.IsInteger secs.toInt ∧
      (n.IsInteger nanos ∧ nanos < 0x100000000) ∧ Instant.new secs nanos = t := by
  simp only [← seconds?_eq_some_iff, ← nanos?_eq_some_iff, parseTime]
  cases hs : seconds? s with
  | none => simp
  | some secs => cases hn : nanos? n <;> simp

/-- Nothing is carried out of the nanoseconds of an instant. -/
theorem new_parts (t : Instant) : Instant.new t.secs t.nanos = t := by
  have hlt := t.nanos_lt
  have hhigh := t.secs.toInt_lt
  refine Instant.total_inj ?_
  rw [Instant.total_new _ _ (by omega), Instant.total]

/-- An instant as a document is read back. -/
theorem parseTime_timeDocument (t : Instant) : parseTime (Value.timeDocument t) = .ok t := by
  -- The nanoseconds are below a second, so they fit half a word.
  have hlt := t.nanos_lt
  exact parseTime_pair_eq_ok_iff.2
    ⟨t.secs, t.nanos, ⟨_, rfl⟩, ⟨⟨_, rfl⟩, by omega⟩, new_parts t⟩

/-- **The text of a cell** is accepted, and the time of its document is the instant. -/
theorem exists_parseTime_cell (t : Instant) (mapsAsJson : Bool) :
    ∃ d, Document.ofText? ((Value.time t).cell mapsAsJson).toList = some d ∧
      parseTime d = .ok t := by
  refine ⟨Value.timeDocument t, ?_, parseTime_timeDocument t⟩
  rw [Value.cell, String.toList_ofList]
  exact (Value.reads_cellChars 126 mapsAsJson (.time t)).ofText?

/-- The arrays of two that are times, by the integers in them. -/
theorem exists_parseTime_pair_iff (s n : Document) :
    (∃ t, parseTime (.array [s, n]) = .ok t) ↔
      (∃ i, s.IsInteger i ∧ -0x8000000000000000 ≤ i ∧ i < 0x8000000000000000) ∧
        ∃ j, n.IsInteger j ∧ 0 ≤ j ∧ j < 0x100000000 := by
  constructor
  · rintro ⟨t, ht⟩
    obtain ⟨secs, nanos, hs, ⟨hn, hlt⟩, -⟩ := parseTime_pair_eq_ok_iff.1 ht
    exact ⟨⟨secs.toInt, hs, secs.le_toInt, secs.toInt_lt⟩, ⟨nanos, hn, by omega, by omega⟩⟩
  · rintro ⟨⟨i, hi, hlow, hhigh⟩, j, hj, hpos, hlt⟩
    have htoInt : (Int64.ofInt i).toInt = i := Int64.toInt_ofInt_of_le hlow hhigh
    have htoNat : (j.toNat : Int) = j := Int.toNat_of_nonneg hpos
    exact ⟨_, parseTime_pair_eq_ok_iff.2
      ⟨Int64.ofInt i, j.toNat, by rwa [htoInt], ⟨by rwa [htoNat], by omega⟩, rfl⟩⟩

/-- An array of two stands for so many seconds and nanoseconds. -/
theorem total_of_parseTime_pair {s n : Document} {i j : Int} {t : Instant} (hs : s.IsInteger i)
    (hn : n.IsInteger j) (h : parseTime (.array [s, n]) = .ok t)
    (hcarry : i + j / 1000000000 < 0x8000000000000000) : t.total = i * 1000000000 + j := by
  obtain ⟨secs, nanos, ⟨_, hsecs⟩, ⟨⟨_, hnanos⟩, -⟩, rfl⟩ := parseTime_pair_eq_ok_iff.1 h
  obtain ⟨_, rfl⟩ := hs
  obtain ⟨_, rfl⟩ := hn
  -- A document is one integer.
  obtain rfl := Number.integer.inj (Document.number.inj hsecs)
  obtain rfl := Number.integer.inj (Document.number.inj hnanos)
  exact Instant.total_new secs nanos (by omega)

/-- **Times are read as they were written,** for every instant: a cell and the compact text are the
    same text, which is accepted, and the time of the document is the instant.  Beyond what is
    written, an array of two documents is a time exactly if the first is an integer that is a signed
    word and the second an integer that is an unsigned word of half the size; it then stands for so
    many seconds and nanoseconds, as long as the seconds are a word after the carry. -/
theorem parseTime_written :
    (∀ (t : Instant) (mapsAsJson : Bool),
      (Value.time t).cell mapsAsJson = (Value.time t).toDocument.toText ∧
      ∃ d, Document.ofText? ((Value.time t).cell mapsAsJson).toList = some d ∧
        parseTime d = .ok t) ∧
    (∀ s n : Document,
      ((∃ t, parseTime (.array [s, n]) = .ok t) ↔
        (∃ i, s.IsInteger i ∧ -0x8000000000000000 ≤ i ∧ i < 0x8000000000000000) ∧
          ∃ j, n.IsInteger j ∧ 0 ≤ j ∧ j < 0x100000000) ∧
      ∀ i j t, s.IsInteger i → n.IsInteger j → parseTime (.array [s, n]) = .ok t →
        i + j / 1000000000 < 0x8000000000000000 → t.total = i * 1000000000 + j) := by
  constructor
  · intro t mapsAsJson
    exact ⟨Value.cell_time mapsAsJson t, exists_parseTime_cell t mapsAsJson⟩
  · intro s n
    refine ⟨exists_parseTime_pair_iff s n, ?_⟩
    intro i j t hs hn ht hcarry
    exact total_of_parseTime_pair hs hn ht hcarry

/-- The earliest seconds there are, and as many nanoseconds as an array may have: they carry four
    seconds. -/
theorem parseTime_written_carried :
    let s : Document := .number (.integer (-0x8000000000000000) (by decide))
    let n : Document := .number (.integer 0xffffffff (by decide))
    s.IsInteger (-0x8000000000000000) ∧ n.IsInteger 0xffffffff ∧
      ∃ t, parseTime (.array [s, n]) = .ok t ∧
        t.total = -0x8000000000000000 * 1000000000 + 0xffffffff := by
  intro s n
  have hs : s.IsInteger (-0x8000000000000000) := ⟨_, rfl⟩
  have hn : n.IsInteger 0xffffffff := ⟨_, rfl⟩
  obtain ⟨htime, htotal⟩ := parseTime_written.2 s n
  obtain ⟨t, ht⟩ := htime.2 ⟨⟨_, hs, by decide, by decide⟩, _, hn, by decide, by decide⟩
  exact ⟨hs, hn, t, ht, htotal _ _ t hs hn ht (by decide)⟩

end Event

end Telemetry
