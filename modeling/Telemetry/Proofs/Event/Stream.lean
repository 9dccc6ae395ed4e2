import Telemetry.Event.Reader
import Telemetry.Proofs.MessagePack.Item

namespace Telemetry.Event

/-!
# Events, one after the other

MessagePack input has no separators: an event begins where the one before it ends, and the first
one that cannot be read ends the reading.

* `readEvent?` — the event at the front of bytes; `exists_front` — it ends where it ends, whatever
  follows, and takes a byte at least.
* `Holds` — bytes that are whole events and nothing else; `StopsAt` — where the first event begins
  that cannot be read.
* `Rounds` — the loop of the reader, round by round and with no bound on the rounds;
  `exists_rounds` — it ends.
* `readStream_eq_ok_iff`, `readStream_eq_error_iff` — all events, or the place of the first failure.
* `readStream_append` — input may be cut after any event.
-/

open MessagePack (Item Exact)

/-! ### One event -/

/-- The event at the front of bytes, and what follows it. -/
def readEvent? (bytes : List UInt8) : Option (Event × List UInt8) :=
  (Item.read? bytes).bind fun r => (ofItem? r.1).map fun e => (e, r.2)

/-- An event takes the bytes of its item and no others. -/
theorem exact_readEvent? : Exact readEvent? := by
  have hevent : ∀ i : Item, Exact fun rest => (ofItem? i).map fun e => (e, rest) := by
    intro i
    cases ofItem? i with
    | none => exact .fail
    | some e => exact .pure e
  exact Item.exact_read?.bind hevent

/-- **One event** takes a byte at least, and is read alike whatever follows it. -/
theorem exists_front {bytes rest : List UInt8} {e : Event} (h : readEvent? bytes = some (e, rest)) :
    ∃ front, front ≠ [] ∧ bytes = front ++ rest ∧
      ∀ more, readEvent? (front ++ more) = some (e, more) := by
  obtain ⟨front, hbytes, hfront⟩ := exact_readEvent? h
  refine ⟨front, ?_, hbytes, hfront⟩
  rintro rfl
  have hnone : readEvent? [] = none := by rw [readEvent?, Item.read?_nil, Option.bind_none]
  exact absurd ((hfront []).symm.trans hnone) (by simp)

/-- Each event takes a byte at least. -/
theorem length_lt_of_readEvent? {bytes rest : List UInt8} {e : Event}
    (h : readEvent? bytes = some (e, rest)) : rest.length < bytes.length := by
  obtain ⟨front, hne, rfl, -⟩ := exists_front h
  have hpos := List.length_pos_iff.2 hne
  rw [List.length_append]
  omega

/-! ### Whole events -/

/-- The bytes are these events, one after the other, and nothing else. -/
inductive Holds : List UInt8 → List Event → Prop
  | nil : Holds [] []
  | cons {front bytes : List UInt8} {e : Event} {es : List Event}
      (hfront : readEvent? front = some (e, [])) (h : Holds bytes es) :
      Holds (front ++ bytes) (e :: es)

/-- Whole events may be followed by whole events. -/
theorem Holds.append {a b : List UInt8} {es fs : List Event} (ha : Holds a es) (hb : Holds b fs) :
    Holds (a ++ b) (es ++ fs) := by
  induction ha with
  | nil => exact hb
  | cons hfront _ ih =>
    rw [List.append_assoc]
    exact .cons hfront ih

/-- After whole events there is something that does not begin with an event. -/
def StopsAt (bytes : List UInt8) (offset : Nat) : Prop :=
  ∃ front es tail, bytes = front ++ tail ∧ front.length = offset ∧ Holds front es ∧ tail ≠ [] ∧
    readEvent? tail = none

/-- Whole events in front only move the place. -/
theorem StopsAt.append {a b : List UInt8} {es : List Event} {offset : Nat} (h : StopsAt b offset)
    (ha : Holds a es) : StopsAt (a ++ b) (a.length + offset) := by
  obtain ⟨front, fs, tail, rfl, rfl, hfront, htail⟩ := h
  exact ⟨a ++ front, es ++ fs, tail, by rw [List.append_assoc], List.length_append,
    ha.append hfront, htail⟩

/-- An error is told at a place inside the bytes. -/
theorem StopsAt.lt_length {bytes : List UInt8} {offset : Nat} (h : StopsAt bytes offset) :
    offset < bytes.length := by
  obtain ⟨front, es, tail, rfl, rfl, -, hne, -⟩ := h
  have hpos := List.length_pos_iff.2 hne
  rw [List.length_append]
  omega

/-- What stands before the place, and what stands there. -/
theorem StopsAt.holds_take {bytes : List UInt8} {offset : Nat} (h : StopsAt bytes offset) :
    (∃ es, Holds (bytes.take offset) es) ∧ readEvent? (bytes.drop offset) = none := by
  obtain ⟨front, es, tail, rfl, rfl, hfront, -, htail⟩ := h
  rw [List.take_left, List.drop_left]
  exact ⟨⟨es, hfront⟩, htail⟩

/-! ### The loop -/

/-- The loop from a place on, after the events read so far: how it ends.  Each round reads the
    event at the front of what is left; nothing bounds the number of rounds. -/
inductive Rounds : List Event → Nat → List UInt8 → Except ReadError (List Event) → Prop
  | done {es : List Event} {start : Nat} : Rounds es start [] (.ok es)
  | fails {es : List Event} {start : Nat} {bytes : List UInt8} (hne : bytes ≠ [])
      (h : readEvent? bytes = none) : Rounds es start bytes (.error (.offset start))
  | next {es : List Event} {start : Nat} {bytes rest : List UInt8} {e : Event}
      {r : Except ReadError (List Event)} (h : readEvent? bytes = some (e, rest))
      (hrest : Rounds (es ++ [e]) (start + (bytes.length - rest.length)) rest r) :
      Rounds es start bytes r

/-- **The loop ends,** since each round leaves fewer bytes. -/
theorem exists_rounds (es : List Event) (start : Nat) (bytes : List UInt8) :
    ∃ r, Rounds es start bytes r := by
  -- On the number of bytes: a round leaves any number of them that is smaller.
  induction hn : bytes.length using Nat.strongRecOn generalizing es start bytes with
  | _ n ih =>
    by_cases hne : bytes = []
    · exact ⟨.ok es, hne ▸ .done⟩
    · cases h : readEvent? bytes with
      | none => exact ⟨.error (.offset start), .fails hne h⟩
      | some r =>
        obtain ⟨e, rest⟩ := r
        obtain ⟨r, hr⟩ := ih rest.length (hn ▸ length_lt_of_readEvent? h) (es ++ [e])
          (start + (bytes.length - rest.length)) rest rfl
        exact ⟨r, .next h hr⟩

/-- Whole events in front are as many rounds. -/
theorem Rounds.of_holds {front tail : List UInt8} {es : List Event} (h : Holds front es)
    {done : List Event} {start : Nat} {r : Except ReadError (List Event)}
    (hr : Rounds (done ++ es) (start + front.length) tail r) :
    Rounds done start (front ++ tail) r := by
  induction h generalizing done start with
  | nil => simpa using hr
  | @cons front bytes e es hfront _ ih =>
    -- The event that is all of `front` is read alike when the others follow.
    obtain ⟨front', -, heq, hmore⟩ := exists_front hfront
    obtain rfl : front = front' := by rw [heq, List.append_nil]
    rw [List.append_assoc]
    refine .next (hmore (bytes ++ tail)) (ih ?_)
    rw [List.length_append, Nat.add_sub_cancel_right, List.append_assoc, Nat.add_assoc,
      ← List.length_append]
    exact hr

/-- How the loop has ended tells what the bytes are. -/
theorem Rounds.holds_or_stopsAt {done : List Event} {start : Nat} {bytes : List UInt8}
    {r : Except ReadError (List Event)} (h : Rounds done start bytes r) :
    (∃ es, Holds bytes es ∧ r = .ok (done ++ es)) ∨
      ∃ offset, StopsAt bytes offset ∧ r = .error (.offset (start + offset)) := by
  induction h with
  | done => exact .inl ⟨[], .nil, by rw [List.append_nil]⟩
  | fails hne h => exact .inr ⟨0, ⟨[], [], _, rfl, rfl, .nil, hne, h⟩, rfl⟩
  | @next done start bytes rest e r h _ ih =>
    obtain ⟨front, -, rfl, hmore⟩ := exists_front h
    have hfront : readEvent? front = some (e, []) := by simpa using hmore []
    have hone : Holds front [e] := by simpa using Holds.cons hfront .nil
    rcases ih with ⟨es, hes, rfl⟩ | ⟨offset, hstops, rfl⟩
    · exact .inl ⟨e :: es, .cons hfront hes, by rw [List.append_assoc]; rfl⟩
    · -- The place counts from the start of the loop, and so from before this event.
      refine .inr ⟨front.length + offset, hstops.append hone, ?_⟩
      rw [List.length_append, Nat.add_sub_cancel_right, Nat.add_assoc]

/-! ### The reader -/

/-- The reader makes the rounds of the loop: as each takes a byte at least, the number of bytes
    bounds them. -/
theorem Rounds.readAfter_eq {done : List Event} {start : Nat} {bytes : List UInt8}
    {r : Except ReadError (List Event)} (h : Rounds done start bytes r) {fuel : Nat}
    (hfuel : bytes.length ≤ fuel) : readAfter done.reverse start fuel bytes = r := by
  induction h generalizing fuel with
  | done =>
    rw [readAfter, List.reverse_reverse]
  | @fails done start bytes hne h =>
    obtain ⟨b, bytes, rfl⟩ := List.exists_cons_of_ne_nil hne
    cases fuel with
    | zero => rfl
    | succ fuel =>
      rw [readAfter]
      · -- There is no item, or it is not an event.
        rw [readEvent?] at h
        cases hread : Item.read? (b :: bytes) with
        | none => rfl
        | some i =>
          rw [hread, Option.bind_some, Option.map_eq_none_iff] at h
          simp only [h]
      · simp
  | @next done start bytes rest e r h _ ih =>
    -- The event took a byte at least, so less fuel is enough for the rest.
    have hlt := length_lt_of_readEvent? h
    obtain ⟨i, hi, hmap⟩ := Option.bind_eq_some_iff.1 h
    obtain ⟨e', he, heq⟩ := Option.map_eq_some_iff.1 hmap
    obtain ⟨rfl, rfl⟩ := Prod.mk.inj heq
    cases fuel with
    | zero => omega
    | succ fuel =>
      rw [readAfter]
      · have hrest := @ih fuel (by omega)
        rw [List.reverse_append] at hrest
        simp only [hi, he]
        exact hrest
      · rintro rfl
        simp at hlt

/-- The reader gives what the loop ends with. -/
theorem rounds_iff {bytes : List UInt8} {r : Except ReadError (List Event)} :
    Rounds [] 0 bytes r ↔ readStream bytes = r := by
  refine ⟨fun h => h.readAfter_eq (Nat.le_refl _), ?_⟩
  rintro rfl
  obtain ⟨r, hr⟩ := exists_rounds [] 0 bytes
  have hread : readStream bytes = r := hr.readAfter_eq (Nat.le_refl _)
  rwa [hread]

/-- **Reading succeeds** exactly on whole events. -/
theorem readStream_eq_ok_iff {bytes : List UInt8} {es : List Event} :
    readStream bytes = .ok es ↔ Holds bytes es := by
  rw [← rounds_iff]
  constructor
  · intro h
    rcases h.holds_or_stopsAt with ⟨fs, hfs, heq⟩ | ⟨offset, -, heq⟩
    · rwa [Except.ok.inj heq]
    · cases heq
  · intro h
    have hrounds : Rounds [] 0 (bytes ++ []) (.ok es) := .of_holds h .done
    rwa [List.append_nil] at hrounds

/-- **An error** is that of the first place where no event begins. -/
theorem readStream_eq_error_iff {bytes : List UInt8} {err : ReadError} :
    readStream bytes = .error err ↔ ∃ offset, StopsAt bytes offset ∧ err = .offset offset := by
  rw [← rounds_iff]
  constructor
  · intro h
    rcases h.holds_or_stopsAt with ⟨fs, -, heq⟩ | ⟨offset, hstops, heq⟩
    · cases heq
    · rw [Nat.zero_add] at heq
      exact ⟨offset, hstops, Except.error.inj heq⟩
  · rintro ⟨offset, ⟨front, es, tail, rfl, rfl, hfront, hne, htail⟩, rfl⟩
    refine Rounds.of_holds hfront ?_
    rw [Nat.zero_add]
    exact .fails hne htail

/-! ### Input with other input in front -/

/-- **Events, one after the other.** Whatever the input, the loop of the reader ends, and the reader
    gives what it ends with.  When that is an error, it names a place inside the input; the bytes
    before it are whole events, which are read when they stand alone, and no event begins there.

    So input may be cut after any event.  If the first part can be read, the events of the second
    come after its own, and an error of the second part is the error of the whole, with as many
    bytes added to its place as the first part has. -/
theorem readStream_append :
    (∀ bytes r, Rounds [] 0 bytes r ↔ readStream bytes = r) ∧
    (∀ bytes err, readStream bytes = .error err → ∃ offset, err = .offset offset ∧
      offset < bytes.length ∧ readEvent? (bytes.drop offset) = none ∧
      ∃ es, Holds (bytes.take offset) es ∧ readStream (bytes.take offset) = .ok es) ∧
    (∀ a b es, readStream a = .ok es →
      (∀ fs, readStream b = .ok fs → readStream (a ++ b) = .ok (es ++ fs)) ∧
      (∀ offset, readStream b = .error (.offset offset) →
        readStream (a ++ b) = .error (.offset (a.length + offset)))) := by
  refine ⟨fun bytes r => rounds_iff, ?_, ?_⟩
  · intro bytes err herr
    obtain ⟨offset, hstops, rfl⟩ := readStream_eq_error_iff.1 herr
    obtain ⟨⟨es, hes⟩, hnone⟩ := hstops.holds_take
    exact ⟨offset, rfl, hstops.lt_length, hnone, es, hes, readStream_eq_ok_iff.2 hes⟩
  · intro a b es ha
    have hes := readStream_eq_ok_iff.1 ha
    constructor
    · intro fs hb
      exact readStream_eq_ok_iff.2 (hes.append (readStream_eq_ok_iff.1 hb))
    · intro offset hb
      obtain ⟨offset', hstops, heq⟩ := readStream_eq_error_iff.1 hb
      obtain rfl := ReadError.offset.inj heq
      exact readStream_eq_error_iff.2 ⟨a.length + offset, hstops.append hes, rfl⟩

/-- An event as an array; then one as a map with a member to skip, and a byte that is no marker. -/
theorem readStream_append_second_bad :
    let a : List UInt8 := [0x93, 0xA1, 0x74, 0xC0, 0x80]
    let b : List UInt8 := [0x83, 0x00, 0xA1, 0x75, 0xA1, 0x78, 0x91, 0xC3, 0x02, 0x80, 0xC1]
    readStream a = .ok [⟨"t", none, .empty⟩] ∧ readStream b = .error (.offset 10) ∧
      readStream (a ++ b) = .error (.offset 15) := by
  intro a b
  have ha : readStream a = .ok [⟨"t", none, .empty⟩] := by with_unfolding_all rfl
  have hb : readStream b = .error (.offset 10) := by with_unfolding_all rfl
  exact ⟨ha, hb, (readStream_append.2.2 a b _ ha).2 10 hb⟩

end Telemetry.Event
