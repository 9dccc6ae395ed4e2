import Telemetry.Output.Shipment
import Telemetry.Proofs.Output.Calls
import Telemetry.Transport.Memory

namespace Telemetry

/-!
# Shipments and batches

How large the batches of a shipment are makes no difference to what is sent, as long as all
times are valid.  A time that is none holds back its own batch and what comes after it.

* `batches_append` — a list may be cut between two batches.
* `length_batches` — how many rounds a shipment has.
* `Output.handle_two_readings` — of two readings of the clock one is enough.
* `Event.entries_append`, `Event.entries_batch_of_error` — the first time that is none decides.
* `Output.writeFrom_append` — a batch of two parts is the first part and, if it succeeds, the
  second.
* `Output.shipFrom_of_entries`, `Output.shipFrom_of_error` — a run of batches without and
  with a time that is none.
* `Output.shipTimed_eq` — what a shipment comes to, for every size of its batches.
-/

/-! ### Batches -/

section Batches

variable {α : Type} {size : Nat}

/-- The first batch is as large as it may be. -/
theorem batches_eq_cons (hsize : 1 ≤ size) {xs : List α} (hxs : xs ≠ []) :
    batches size xs = xs.take size :: batches size (xs.drop size) := by
  obtain ⟨n, rfl⟩ := Nat.exists_eq_add_of_le' hsize
  cases xs with
  | nil => exact absurd rfl hxs
  | cons x rest => rw [batches_cons, Nat.add_sub_cancel, List.take_succ_cons, List.drop_succ_cons]

/-- A list may be cut between two batches. -/
theorem batches_append (hsize : 1 ≤ size) (n : Nat) {xs : List α} (hn : n * size ≤ xs.length) :
    batches size xs = batches size (xs.take (n * size)) ++ batches size (xs.drop (n * size)) := by
  induction n generalizing xs with
  | zero => simp [batches_nil]
  | succ n ih =>
    have hsplit : (n + 1) * size = size + n * size := by rw [Nat.succ_mul, Nat.add_comm]
    have hxs : xs ≠ [] := by
      rintro rfl
      rw [List.length_nil] at hn
      omega
    have htake : xs.take ((n + 1) * size) ≠ [] := by
      intro hnil
      have hlength := congrArg List.length hnil
      rw [List.length_take, List.length_nil] at hlength
      omega
    have hdrop : n * size ≤ (xs.drop size).length := by
      rw [List.length_drop]
      omega
    rw [batches_eq_cons hsize hxs, ih hdrop, batches_eq_cons hsize htake, hsplit, List.take_take,
      List.drop_take, List.drop_drop, Nat.min_eq_left (Nat.le_add_right _ _),
      Nat.add_sub_cancel_left, List.cons_append]

/-- **A shipment has as many rounds** as batches are needed. -/
theorem length_batches (hsize : 1 ≤ size) (xs : List α) :
    (batches size xs).length = (xs.length + size - 1) / size := by
  -- Each round takes a batch from the front of what is left.
  induction hn : xs.length using Nat.strongRecOn generalizing xs with
  | ind n ih =>
    by_cases hxs : xs = []
    · rw [hxs, List.length_nil] at hn
      rw [hxs, batches_nil, List.length_nil, Nat.div_eq_of_lt (by omega)]
    · have hpos : 0 < xs.length := List.length_pos_iff.2 hxs
      have hrest : (xs.drop size).length = n - size := by rw [List.length_drop, hn]
      rw [batches_eq_cons hsize hxs, List.length_cons, ih (n - size) (by omega) _ hrest]
      by_cases hlast : n ≤ size
      · have hzero : n - size + size - 1 = size - 1 := by omega
        have hone : n + size - 1 = n - 1 + size := by omega
        rw [hzero, hone, Nat.add_div_right _ hsize, Nat.div_eq_of_lt (by omega),
          Nat.div_eq_of_lt (by omega)]
      · have hmore : n + size - 1 = n - size + size - 1 + size := by omega
        rw [hmore, Nat.add_div_right _ hsize]

end Batches

/-! ### Readings of the clock -/

/-- **Of two readings of the clock,** one for the time that an event lacks and one for its emission,
    a line shows one at most, so this one may stand for both. -/
theorem Output.handle_two_readings {τ : Type} [Transport τ] (o : Output τ) (tag : String)
    (r : Record) (missing emission : Instant) :
    let clock := if o.encoder.useSourceTime then missing else emission
    o.handle emission ⟨tag, missing, r⟩ = o.handle clock ⟨tag, clock, r⟩ := by
  intro clock
  have hprepare : o.encoder.prepare r missing emission = o.encoder.prepare r clock clock := by
    simp only [Encoder.prepare, clock]
    cases o.encoder.useSourceTime <;> rfl
  simp only [handle, Encoder.encodeForSend, hprepare]

/-! ### Times -/

namespace Event

/-- The event has a valid time, at a reading of the clock. -/
def HasTime (e : Instant × Event) : Prop := (e.2.instant e.1).isOk = true

instance (e : Instant × Event) : Decidable (HasTime e) :=
  inferInstanceAs (Decidable (_ = true))

/-- An event with a time is an entry. -/
theorem exists_entry_of_hasTime {e : Instant × Event} (he : HasTime e) :
    ∃ x, e.2.entry e.1 = .ok x := by
  unfold HasTime at he
  cases ht : e.2.instant e.1 with
  | error err =>
    rw [ht] at he
    exact absurd he (by simp [Except.isOk, Except.toBool])
  | ok t => exact ⟨⟨e.2.tag, t, e.2.record⟩, by rw [entry, ht]; rfl⟩

theorem exists_entries_of_hasTime {events : List (Instant × Event)}
    (h : ∀ e ∈ events, HasTime e) : ∃ xs, entries events = .ok xs := by
  induction events with
  | nil => exact ⟨[], rfl⟩
  | cons e events ih =>
    obtain ⟨x, hx⟩ := exists_entry_of_hasTime (h e (by simp))
    obtain ⟨xs, hxs⟩ := ih fun e' he' => h e' (by simp [he'])
    exact ⟨(e.1, x) :: xs, by rw [entries, hx, hxs]; rfl⟩

/-- A time that is none after events with times is the error of the whole list. -/
theorem entries_of_error {before after : List (Instant × Event)} {e : Instant × Event}
    {err : TimeError} (h : ∀ e' ∈ before, HasTime e') (he : e.2.instant e.1 = .error err) :
    entries (before ++ e :: after) = .error err := by
  induction before with
  | nil => simp only [List.nil_append, entries, entry, he, Except.map]
  | cons e' before ih =>
    obtain ⟨x, hx⟩ := exists_entry_of_hasTime (h e' (by simp))
    rw [List.cons_append, entries, hx, ih fun e'' he'' => h e'' (by simp [he''])]
    rfl

/-- The entries of two lists one after the other. -/
theorem entries_append {events events' : List (Instant × Event)}
    {xs : List (Instant × Entry)} (h : entries (events ++ events') = .ok xs) :
    ∃ ys zs, entries events = .ok ys ∧ entries events' = .ok zs ∧ xs = ys ++ zs := by
  induction events generalizing xs with
  | nil => exact ⟨[], xs, rfl, h, rfl⟩
  | cons e events ih =>
    rw [List.cons_append, entries] at h
    cases he : e.2.entry e.1 with
    | error err =>
      rw [he] at h
      exact absurd h (by simp)
    | ok x =>
      rw [he] at h
      cases hrest : entries (events ++ events') with
      | error err =>
        rw [hrest] at h
        exact absurd h (by simp [Except.map])
      | ok rest =>
        obtain ⟨ys, zs, hys, hzs, rfl⟩ := ih hrest
        rw [hrest] at h
        refine ⟨(e.1, x) :: ys, zs, ?_, hzs, ?_⟩
        · rw [entries, he, hys]
          rfl
        · simpa [Except.map] using h.symm

/-- **The batch of the first event without a time** has the error of that event: before it
    there stand, in its batch, only events with times. -/
theorem entries_batch_of_error {events : List (Instant × Event)} {size k : Nat} (hsize : 1 ≤ size)
    {e : Instant × Event} {err : TimeError} (hbefore : ∀ e' ∈ events.take k, HasTime e')
    (hevent : events[k]? = some e) (he : e.2.instant e.1 = .error err) :
    entries ((events.drop (k / size * size)).take size) = .error err := by
  -- The batch begins at the last multiple of the size up to `k`.
  have hstart : k / size * size ≤ k := Nat.div_mul_le_self k size
  have hend : k < k / size * size + size := by
    rw [← Nat.succ_mul]
    exact Nat.lt_mul_of_div_lt (Nat.lt_succ_self _) hsize
  generalize k / size * size = start at hstart hend ⊢
  have hindex : ((events.drop start).take size)[k - start]? = some e := by
    have hk : start + (k - start) = k := Nat.add_sub_cancel' hstart
    rw [List.getElem?_take_of_lt (by omega), List.getElem?_drop, hk, hevent]
  obtain ⟨hlt, hget⟩ := List.getElem?_eq_some_iff.1 hindex
  have htake : ((events.drop start).take size).take (k - start) = (events.take k).drop start := by
    rw [List.take_take, Nat.min_eq_left (by omega), List.drop_take]
  rw [← List.take_append_drop (k - start) ((events.drop start).take size),
    List.drop_eq_getElem_cons hlt, hget, htake]
  exact entries_of_error (fun e' he' => hbefore e' (List.mem_of_mem_drop he')) he

end Event

namespace Output

variable {τ : Type} [Transport τ]

/-! ### Batches one after the other -/

/-- A batch of two parts is the first part and, if it succeeds, the second. -/
theorem writeFrom_append (summary : BatchSummary) (xs ys : List (Instant × Entry))
    (o : Output τ) :
    writeFrom summary (xs ++ ys) o =
      match writeFrom summary xs o with
      | (.ok s, o') => writeFrom s ys o'
      | (.error e, o') => (.error e, o') := by
  induction xs generalizing summary o with
  | nil => rfl
  | cons x xs ih =>
    obtain ⟨clock, x⟩ := x
    rw [List.cons_append, writeFrom, writeFrom]
    rcases o.handle clock x with ⟨r, o'⟩
    cases r with
    | ok d => exact ih (summary.add d) o'
    | error e => rfl

/-- Counting on from a summary comes to the same as adding to it in the end. -/
theorem writeFrom_eq (summary : BatchSummary) (xs : List (Instant × Entry)) (o : Output τ) :
    writeFrom summary xs o =
      ((writeFrom {} xs o).1.map fun s =>
        ⟨summary.sent + s.sent, summary.dropped + s.dropped⟩, (writeFrom {} xs o).2) := by
  induction xs generalizing summary o with
  | nil => rfl
  | cons x xs ih =>
    obtain ⟨clock, x⟩ := x
    rw [writeFrom, writeFrom]
    rcases o.handle clock x with ⟨r, o'⟩
    cases r with
    | error e => rfl
    | ok d =>
      simp only
      rw [ih (summary.add d), ih (BatchSummary.add {} d)]
      cases (writeFrom {} xs o').1 with
      | error e => rfl
      | ok s => cases d <;> simp only [BatchSummary.add, Except.map] <;> congr 3 <;> omega

/-- What an output has done once it has handled entries in order. -/
def handleAll (o : Output τ) (xs : List (Instant × Entry)) : Output τ :=
  xs.foldl (fun o x => (o.handle x.1 x.2).2) o

/-- A batch leaves the output that has handled the entries whose turn came. -/
theorem writeFrom_snd (summary : BatchSummary) (xs : List (Instant × Entry)) (o : Output τ) :
    (writeFrom summary xs o).2 = o.handleAll (turns xs o) := by
  induction xs generalizing summary o with
  | nil => rfl
  | cons x xs ih =>
    obtain ⟨clock, x⟩ := x
    rw [writeFrom, turns, handleAll]
    rcases hhandle : o.handle clock x with ⟨r, o'⟩
    cases r with
    | ok d =>
      simp only
      rw [List.foldl_cons, hhandle, ih]
      rfl
    | error e =>
      simp only
      rw [List.foldl_cons, hhandle]
      rfl

/-- The outcome of a batch as that of a shipment. -/
def shipped (r : Except Error BatchSummary × Output τ) :
    Except ShipError BatchSummary × Output τ :=
  (r.1.mapError .handoff, r.2)

/-- The outcome of a shipment that is to end in an error of time once a batch has succeeded. -/
def heldBack (err : Event.TimeError) (r : Except Error BatchSummary × Output τ) :
    Except ShipError BatchSummary × Output τ :=
  match r with
  | (.ok _, o) => (.error (.time err), o)
  | (.error e, o) => (.error (.handoff e), o)

/-! ### Shipments -/

/-- One round of a shipment whose batch has times. -/
theorem shipFrom_cons {batch : List (Instant × Event)} {xs : List (Instant × Entry)}
    (h : Event.entries batch = .ok xs) (total : BatchSummary)
    (rest : List (List (Instant × Event))) (o : Output τ) :
    shipFrom total (batch :: rest) o =
      match writeFrom total xs o with
      | (.ok s, o') => shipFrom s rest o'
      | (.error e, o') => (.error (.handoff e), o') := by
  rw [shipFrom, h, writeFrom_eq total]
  simp only [writeTimed]
  rcases writeFrom {} xs o with ⟨r, o'⟩
  cases r <;> rfl

/-- **All times are valid:** the batches come to one batch of all entries. -/
theorem shipFrom_of_entries {parts : List (List (Instant × Event))}
    {xs : List (Instant × Entry)} (h : Event.entries parts.flatten = .ok xs)
    (total : BatchSummary) (o : Output τ) :
    shipFrom total parts o = shipped (writeFrom total xs o) := by
  induction parts generalizing xs total o with
  | nil =>
    obtain rfl : [] = xs := Except.ok.inj h
    rfl
  | cons batch parts ih =>
    obtain ⟨ys, zs, hys, hzs, rfl⟩ := Event.entries_append h
    rw [shipFrom_cons hys, writeFrom_append]
    rcases writeFrom total ys o with ⟨r, o'⟩
    cases r with
    | ok s => exact ih hzs s o'
    | error e => rfl

/-- **A time is none:** what stands in the batches before its own is handled, and then its
    error is told. -/
theorem shipFrom_of_error {parts rest : List (List (Instant × Event))}
    {batch : List (Instant × Event)} {xs : List (Instant × Entry)} {err : Event.TimeError}
    (h : Event.entries parts.flatten = .ok xs) (herr : Event.entries batch = .error err)
    (total : BatchSummary) (o : Output τ) :
    shipFrom total (parts ++ batch :: rest) o = heldBack err (writeFrom total xs o) := by
  induction parts generalizing xs total o with
  | nil =>
    obtain rfl : [] = xs := Except.ok.inj h
    rw [List.nil_append, shipFrom, herr]
    rfl
  | cons part parts ih =>
    obtain ⟨ys, zs, hys, hzs, rfl⟩ := Event.entries_append h
    rw [List.cons_append, shipFrom_cons hys, writeFrom_append]
    rcases writeFrom total ys o with ⟨r, o'⟩
    cases r with
    | ok s => exact ih hzs s o'
    | error e => rfl

/-- **The size of the batches does not show.**  A shipment in batches of any size has a round
    for each batch, and

    * if every event has a valid time, it leaves the output and tells the total or the error
      of one batch of all entries;
    * if event `k` is the first without a valid time, exactly the events of the batches before
      its own are handled, fewer only if a handoff fails, whose error is then told, and else
      the error of the time of event `k` is;
    * one batch leaves the output that has handled its entries in order, up to and including
      the first whose handoff fails. -/
theorem shipTimed_eq (o : Output τ) {size : Nat} (hsize : 1 ≤ size)
    (events : List (Instant × Event)) :
    (batches size events).length = (events.length + size - 1) / size ∧
    ((∀ e ∈ events, Event.HasTime e) → ∃ xs, Event.entries events = .ok xs ∧
      o.shipTimed size events = shipped (o.writeTimed xs)) ∧
    (∀ k err, (∀ e ∈ events.take k, Event.HasTime e) →
      (∃ e ∈ events[k]?, e.2.instant e.1 = .error err) →
      ∃ xs, Event.entries (events.take (k / size * size)) = .ok xs ∧
        o.shipTimed size events = heldBack err (o.writeTimed xs)) ∧
    ∀ xs, (o.writeTimed xs).2 = o.handleAll (turns xs o) := by
  refine ⟨length_batches hsize events, fun hevents => ?_, fun k err hbefore ⟨e, he, herr⟩ => ?_,
    fun xs => writeFrom_snd {} xs o⟩
  · obtain ⟨xs, hxs⟩ := Event.exists_entries_of_hasTime hevents
    have hflatten : Event.entries (batches size events).flatten = .ok xs := by
      rw [flatten_batches, hxs]
    exact ⟨xs, hxs, shipFrom_of_entries hflatten {} o⟩
  · have hstart : k / size * size ≤ k := Nat.div_mul_le_self k size
    have hbatch := Event.entries_batch_of_error hsize hbefore he herr
    obtain ⟨hk, -⟩ := List.getElem?_eq_some_iff.1 he
    have htimes : ∀ e ∈ events.take (k / size * size), Event.HasTime e := fun e he =>
      hbefore e (List.take_subset_take_left events hstart he)
    obtain ⟨xs, hxs⟩ := Event.exists_entries_of_hasTime htimes
    have hflatten : Event.entries (batches size (events.take (k / size * size))).flatten =
        .ok xs := by
      rw [flatten_batches, hxs]
    have hrest : events.drop (k / size * size) ≠ [] := by
      intro hnil
      have hlength := congrArg List.length hnil
      rw [List.length_drop, List.length_nil] at hlength
      omega
    -- The batches are those before the one of event `k`, that one, and the rest.
    refine ⟨xs, hxs, ?_⟩
    rw [shipTimed, batches_append hsize (k / size) (Nat.le_of_lt (Nat.lt_of_le_of_lt hstart hk)),
      batches_eq_cons hsize hrest]
    exact shipFrom_of_error hflatten hbatch {} o

/-- Three events with times, in batches of two: alone, and before one whose time is none. -/
theorem shipTimed_eq_two_by_two :
    let o : Output MemoryTransport :=
      { encoder := ⟨none, true, recordSizeCeiling, false, .empty⟩, transport := {} }
    let event := fun time : Json.Document =>
      ((Instant.epoch, ⟨"a", some time, .empty⟩) : Instant × Event)
    let valid := [event (.number (.integer 1 (by decide))),
      event (.number (.integer 2 (by decide))), event (.text "2016-11-08T17:40:43Z")]
    (1 ≤ 2 ∧ ∀ e ∈ valid, Event.HasTime e) ∧
    (∃ xs, Event.entries valid = .ok xs ∧ o.shipTimed 2 valid = shipped (o.writeTimed xs)) ∧
    ∃ xs, Event.entries (valid.take 2) = .ok xs ∧
      o.shipTimed 2 (valid ++ [event (.bool true)]) =
        heldBack (.unsupported "true") (o.writeTimed xs) := by
  intro o event valid
  have hsize : 1 ≤ 2 := by decide
  have hvalid : ∀ e ∈ valid, Event.HasTime e := by
    intro e he
    simp only [valid, List.mem_cons, List.not_mem_nil, or_false] at he
    rcases he with rfl | rfl | rfl <;> decide +kernel
  have hnone : ∃ e ∈ (valid ++ [event (.bool true)])[3]?,
      e.2.instant e.1 = .error (.unsupported "true") :=
    ⟨event (.bool true), rfl, rfl⟩
  refine ⟨⟨hsize, hvalid⟩, (shipTimed_eq o hsize valid).2.1 hvalid, ?_⟩
  exact (shipTimed_eq o hsize (valid ++ [event (.bool true)])).2.2.1 3 _ hvalid hnone

end Output

end Telemetry
