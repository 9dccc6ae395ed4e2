import Telemetry.Proofs.Output.Books

namespace Telemetry

/-!
# Trying again

An entry whose handoff failed may be handled again until it is taken.  A failed attempt
leaves something behind, a schema that is registered and counters that moved, but nothing
of that shows in what is delivered later.

* `Registry.run_run_singleton` — asked again, a registry answers the same and stays.
* `Retry` — an output over memory, the entries it has not taken yet, and the attempts that
  failed.
* `Retry.take`, `Retry.run` — one turn, turns one after the other: the switch of the memory
  is set, or the next entry is attempted.
* `Retry.Follows` — how such an output compares with one in which nothing fails.
* `Retry.Follows.take` — each turn leaves the other output alone or makes it take one entry.
* `Retry.run_of_left_eq_nil` — messages and counters are in the end those of a run without
  failures.
-/

/-! ### What a failed attempt leaves behind -/

namespace Registry

/-- **Asked again, a registry answers the same** and does not change. -/
theorem run_run_singleton (g : Registry) (c : SchemaCall) :
    (g.run [c]).2.run [c] = g.run [c] := by
  -- After the first call the signature is registered, whether it was before or not.
  have hagain : ∀ entry g', g.schema c.record c.timeIndex = (entry, g') →
      g'.schema c.record c.timeIndex = (entry, g') := by
    intro entry g' h
    apply schema_of_find?_eq_some
    cases hfind : g.find? c.signature with
    | some old =>
      rw [schema_of_find?_eq_some hfind, Prod.mk.injEq] at h
      rw [← h.2, hfind, h.1]
    | none =>
      rw [schema_of_find?_eq_none hfind, Prod.mk.injEq] at h
      rw [← h.2, ← h.1, find?, List.lookup_cons_self]
  rcases hfirst : g.schema c.record c.timeIndex with ⟨entry, g'⟩
  simp only [run, hfirst, hagain entry g' hfirst]

end Registry

namespace Encoder

/-- The lines of an encoder do not depend on the clock: no emission time is wanted, or it is
    that of the event. -/
def IgnoresClock (e : Encoder) : Prop := e.timeField = none ∨ e.useSourceTime = true

/-- Without the clock's time in it, a record has the same schema at any time. -/
theorem IgnoresClock.schemaCall_eq {e : Encoder} (he : e.IgnoresClock) (c d : Instant)
    (x : Entry) : e.schemaCall (c, x) = e.schemaCall (d, x) := by
  have hprepare : e.prepare x.record x.time c = e.prepare x.record x.time d := by
    unfold prepare
    rcases he with hfield | hsource
    · rw [hfield]
    · simp only [hsource, if_true]
  simp only [schemaCall, hprepare]

/-- Two registries with one answer for the schema of an entry give it one line. -/
theorem parcel_congr {e : Encoder} {g h : Registry} {x : Instant × Entry}
    (hrun : g.run [e.schemaCall x] = h.run [e.schemaCall x]) : e.parcel g x = e.parcel h x := by
  have hentry : (g.schema (e.schemaCall x).record (e.schemaCall x).timeIndex).1 =
      (h.schema (e.schemaCall x).record (e.schemaCall x).timeIndex).1 := by
    simpa [Registry.run] using congrArg Prod.fst hrun
  simp only [schemaCall] at hentry
  simp only [parcel, encode, schemaCall, hentry]

end Encoder

namespace MemoryTransport

/-- A send that succeeds keeps the message under the next number; the memory was open and
    not told to fail. -/
theorem send_of_isOk {t : MemoryTransport} {source line : String}
    (h : (Transport.send t source line).1.isOk = true) :
    t.isClosed = false ∧ t.fails = false ∧ (Transport.send t source line).2 =
      { t with
        latest := ⟨source, t.nextId, line⟩ :: t.latest
        nextId := t.nextId + 1
        counted := t.counted.countSent } := by
  change (t.send source line).1.isOk = true at h
  change _ ∧ _ ∧ (t.send source line).2 = _
  unfold send at h ⊢
  by_cases hclosed : t.isClosed = true
  · simp [hclosed, Except.isOk, Except.toBool] at h
  · by_cases hfails : t.fails = true
    · simp [hclosed, hfails, Except.isOk, Except.toBool] at h
    · simp [hclosed, hfails]

/-- A send that fails takes no number and keeps nothing. -/
theorem send_of_not_isOk {t : MemoryTransport} {source line : String}
    (h : (Transport.send t source line).1.isOk = false) :
    ∃ counted, (Transport.send t source line).2 = { t with counted := counted } := by
  change (t.send source line).1.isOk = false at h
  change ∃ counted, (t.send source line).2 = _
  unfold send at h ⊢
  by_cases hclosed : t.isClosed = true
  · exact ⟨t.counted, by rw [if_pos hclosed]⟩
  · by_cases hfails : t.fails = true
    · exact ⟨t.counted.countFailed, by rw [if_neg hclosed, if_pos hfails]⟩
    · simp [hclosed, hfails, Except.isOk, Except.toBool] at h

/-- An open memory that does not fail takes every line. -/
theorem isOk_send {t : MemoryTransport} (hclosed : t.isClosed = false) (hfails : t.fails = false)
    (source line : String) : (Transport.send t source line).1.isOk = true := by
  show (t.send source line).1.isOk = true
  simp [send, hclosed, hfails, Except.isOk, Except.toBool]

end MemoryTransport

/-! ### Attempts -/

/-- Tells the memory of an output to fail or to succeed. -/
def Output.setFail (o : Output MemoryTransport) (fails : Bool) : Output MemoryTransport :=
  { o with transport := o.transport.setFail fails }

/-- An output over memory, the entries that it has not taken yet, and how many attempts
    failed. -/
structure Retry where
  output : Output MemoryTransport
  left : List Entry
  failures : Nat

namespace Retry

/-- Nothing has been attempted. -/
def start (o : Output MemoryTransport) (entries : List Entry) : Retry := ⟨o, entries, 0⟩

/-- What may happen: the memory is told to fail or to succeed, or the next entry is
    attempted at some reading of the clock. -/
inductive Turn where
  | setFail (fails : Bool)
  | attempt (clock : Instant)

/-- One turn.  An entry whose attempt fails stays the next one. -/
def take (s : Retry) : Turn → Retry
  | .setFail fails => { s with output := s.output.setFail fails }
  | .attempt clock =>
    match s.left with
    | [] => s
    | x :: xs =>
      match s.output.handle clock x with
      | (.ok _, o) => { s with output := o, left := xs }
      | (.error _, o) => { s with output := o, failures := s.failures + 1 }

/-- Turns one after the other. -/
def run (s : Retry) : List Turn → Retry
  | [] => s
  | t :: ts => (s.take t).run ts

/-- An attempt that succeeds is done with its entry. -/
theorem take_attempt_of_ok {s : Retry} {clock : Instant} {x : Entry} {xs : List Entry}
    {d : Delivery} {o : Output MemoryTransport} (hleft : s.left = x :: xs)
    (h : s.output.handle clock x = (.ok d, o)) :
    s.take (.attempt clock) = { s with output := o, left := xs } := by
  simp only [take, hleft, h]

/-- An attempt that fails leaves its entry to be tried again. -/
theorem take_attempt_of_error {s : Retry} {clock : Instant} {x : Entry} {xs : List Entry}
    {e : Error} {o : Output MemoryTransport} (hleft : s.left = x :: xs)
    (h : s.output.handle clock x = (.error e, o)) :
    s.take (.attempt clock) = { s with output := o, failures := s.failures + 1 } := by
  simp only [take, hleft, h]

/-! ### Failures are counted -/

/-- No turn closes the output. -/
theorem isClosed_take (s : Retry) (t : Turn) :
    (s.take t).output.isClosed = s.output.isClosed := by
  cases t with
  | setFail fails => rfl
  | attempt clock =>
    cases hleft : s.left with
    | nil => simp only [take, hleft]
    | cons x xs =>
      have hopen := Output.isClosed_handle s.output clock x
      rcases hhandle : s.output.handle clock x with ⟨r, o⟩
      rw [hhandle] at hopen
      cases r with
      | ok d => rw [take_attempt_of_ok hleft hhandle]; exact hopen
      | error e => rw [take_attempt_of_error hleft hhandle]; exact hopen

/-- An open output counts each failed attempt, and nothing else, as failed. -/
theorem failed_take {s : Retry} (ho : s.output.isClosed = false) (t : Turn) :
    (s.take t).output.failed + s.failures = s.output.failed + (s.take t).failures := by
  cases t with
  | setFail fails => rfl
  | attempt clock =>
    cases hleft : s.left with
    | nil => simp only [take, hleft]
    | cons x xs =>
      rcases Output.handle_of_isOpen ho clock x with ⟨_, h⟩ | ⟨_, _, h⟩ | ⟨_, _, e, h⟩
      · rw [take_attempt_of_ok hleft h]
      · rw [take_attempt_of_ok hleft h]
      · rw [take_attempt_of_error hleft h]
        show s.output.failed + 1 + s.failures = s.output.failed + (s.failures + 1)
        omega

/-- The output counts each failure once. -/
theorem failed_run {s : Retry} (ho : s.output.isClosed = false) (turns : List Turn) :
    (s.run turns).output.failed + s.failures = s.output.failed + (s.run turns).failures := by
  induction turns generalizing s with
  | nil => rfl
  | cons t turns ih =>
    have hstep := failed_take ho t
    have hrest := ih ((isClosed_take s t).trans ho)
    rw [run]
    omega

/-- Once nothing is left, nothing fails. -/
theorem failed_run_of_left_eq_nil {s : Retry} (hleft : s.left = []) (turns : List Turn) :
    (s.run turns).output.failed = s.output.failed ∧ (s.run turns).failures = s.failures := by
  induction turns generalizing s with
  | nil => exact ⟨rfl, rfl⟩
  | cons t turns ih =>
    cases t with
    | setFail fails => exact @ih { s with output := s.output.setFail fails } hleft
    | attempt clock =>
      have hstay : s.take (.attempt clock) = s := by simp only [take, hleft]
      rw [run, hstay]
      exact ih hleft

/-- A closed output takes nothing. -/
theorem left_run_of_isClosed {s : Retry} (ho : s.output.isClosed = true) (turns : List Turn) :
    (s.run turns).left = s.left := by
  induction turns generalizing s with
  | nil => rfl
  | cons t turns ih =>
    rw [run, ih ((isClosed_take s t).trans ho)]
    cases t with
    | setFail fails => rfl
    | attempt clock =>
      cases hleft : s.left with
      | nil => simp only [take, hleft]
      | cons x xs => rw [take_attempt_of_error hleft (Output.handle_of_isClosed ho clock x), hleft]

/-! ### Beside a run without failures -/

/-- The output agrees with `q`, whose memory does not fail, in all that is delivered and in
    what it answers for the next entry.  Its registry may already hold the schema of that
    entry. -/
structure Follows (s : Retry) (q : Output MemoryTransport) : Prop where
  encoder_eq : s.output.encoder = q.encoder
  isClosed_eq : s.output.isClosed = q.isClosed
  sent_eq : s.output.sent = q.sent
  dropped_eq : s.output.dropped = q.dropped
  latest_eq : s.output.transport.latest = q.transport.latest
  nextId_eq : s.output.transport.nextId = q.transport.nextId
  memory_isClosed_eq : s.output.transport.isClosed = q.transport.isClosed
  steady : q.transport.fails = false
  registry_eq : s.left = [] → s.output.registry = q.registry
  schema_eq : ∀ x ∈ s.left.head?, ∀ clock,
    s.output.registry.run [q.encoder.schemaCall (clock, x)] =
      q.registry.run [q.encoder.schemaCall (clock, x)]

/-- At the start the two outputs are the same, but for the failing memory. -/
theorem follows_start (o : Output MemoryTransport) (entries : List Entry) :
    (start o entries).Follows (o.setFail false) where
  encoder_eq := rfl
  isClosed_eq := rfl
  sent_eq := rfl
  dropped_eq := rfl
  latest_eq := rfl
  nextId_eq := rfl
  memory_isClosed_eq := rfl
  steady := rfl
  registry_eq := fun _ => rfl
  schema_eq := fun _ _ _ => rfl

namespace Follows

variable {s : Retry} {q : Output MemoryTransport}

/-- The switch of the memory is not looked at. -/
theorem setFail (h : s.Follows q) (fails : Bool) : (s.take (.setFail fails)).Follows q :=
  { h with }

/-- The next entry has one line in both outputs. -/
theorem parcel_eq (h : s.Follows q) {x : Entry} {xs : List Entry} (hleft : s.left = x :: xs)
    (clock : Instant) :
    s.output.encoder.parcel s.output.registry (clock, x) =
      q.encoder.parcel q.registry (clock, x) := by
  rw [h.encoder_eq]
  exact Encoder.parcel_congr (h.schema_eq x (by simp [hleft]) clock)

/-- After an attempt that took the entry the registries are the same again. -/
theorem registry_run_eq (h : s.Follows q) {x : Entry} {xs : List Entry}
    (hleft : s.left = x :: xs) (clock : Instant) :
    (s.output.registry.run [s.output.encoder.schemaCall (clock, x)]).2 =
      (q.registry.run [q.encoder.schemaCall (clock, x)]).2 := by
  rw [h.encoder_eq, h.schema_eq x (by simp [hleft]) clock]

/-- **An attempt that fails** does not change what the output follows. -/
theorem attempt_of_error (h : s.Follows q) (hclock : q.encoder.IgnoresClock) {clock : Instant}
    {x : Entry} {xs : List Entry} {e : Error} {o : Output MemoryTransport}
    (hleft : s.left = x :: xs) (hhandle : s.output.handle clock x = (.error e, o)) :
    Follows { s with output := o, failures := s.failures + 1 } q := by
  by_cases ho : s.output.isClosed = true
  · rw [Output.handle_of_isClosed ho, Prod.mk.injEq] at hhandle
    rw [← hhandle.2]
    exact { h with }
  · rcases Output.handle_of_isOpen (Bool.eq_false_iff.2 ho) clock x with
      ⟨_, heq⟩ | ⟨_, _, heq⟩ | ⟨_, hsend, e', heq⟩
    · rw [heq] at hhandle
      exact absurd (congrArg Prod.fst hhandle) (by simp)
    · rw [heq] at hhandle
      exact absurd (congrArg Prod.fst hhandle) (by simp)
    · obtain ⟨counted, hmemory⟩ := MemoryTransport.send_of_not_isOk hsend
      rw [heq, Prod.mk.injEq] at hhandle
      rw [← hhandle.2, hmemory]
      -- The schema of the entry is registered now, so asking for it again changes nothing.
      have hschema : ∀ y ∈ s.left.head?, ∀ clock',
          (s.output.registry.run [s.output.encoder.schemaCall (clock, x)]).2.run
              [q.encoder.schemaCall (clock', y)] =
            q.registry.run [q.encoder.schemaCall (clock', y)] := by
        intro y hy clock'
        rw [hleft, List.head?_cons, Option.mem_some] at hy
        rw [← hy, h.encoder_eq, hclock.schemaCall_eq clock' clock, Registry.run_run_singleton]
        exact h.schema_eq x (by simp [hleft]) clock
      exact { h with
        registry_eq := fun hnil => absurd (hleft.symm.trans hnil) (by simp)
        schema_eq := hschema }

/-- **An attempt that succeeds** is one of `q` as well, at whatever reading of the clock. -/
theorem attempt_of_ok (h : s.Follows q) (hclock : q.encoder.IgnoresClock) {clock : Instant}
    {x : Entry} {xs : List Entry} {d : Delivery} {o : Output MemoryTransport}
    (hleft : s.left = x :: xs) (hhandle : s.output.handle clock x = (.ok d, o))
    (clock' : Instant) :
    ∃ q', q.handle clock' x = (.ok d, q') ∧ q'.failed = q.failed ∧ q'.encoder = q.encoder ∧
      Follows { s with output := o, left := xs } q' := by
  have hopen : s.output.isClosed = false := by
    apply Bool.eq_false_iff.2
    intro hclosed
    rw [Output.handle_of_isClosed hclosed] at hhandle
    exact absurd (congrArg Prod.fst hhandle) (by simp)
  -- Both registries have seen the same schemas, so both outputs make the same parcel.
  have hparcel : s.output.encoder.parcel s.output.registry (clock, x) =
      q.encoder.parcel q.registry (clock', x) := by
    rw [h.parcel_eq hleft clock]
    simp only [Encoder.parcel, hclock.schemaCall_eq clock clock']
  have hregistry : (s.output.registry.run [s.output.encoder.schemaCall (clock, x)]).2 =
      (q.registry.run [q.encoder.schemaCall (clock', x)]).2 := by
    rw [h.registry_run_eq hleft clock, hclock.schemaCall_eq clock clock']
  have hq := Output.handle_of_isOpen (h.isClosed_eq ▸ hopen) clock' x
  rcases Output.handle_of_isOpen hopen clock x with ⟨hfits, heq⟩ | ⟨hfits, hsend, heq⟩ |
    ⟨_, _, e, heq⟩
  · -- The line is too long for both.
    rw [heq, Prod.mk.injEq, Except.ok.injEq] at hhandle
    obtain ⟨rfl, rfl⟩ := hhandle
    rw [hparcel, h.encoder_eq] at hfits
    rcases hq with ⟨_, hq⟩ | ⟨hfits', _⟩ | ⟨hfits', _⟩
    · refine ⟨_, hq, rfl, rfl, ?_⟩
      exact { h with
        dropped_eq := congrArg (· + 1) h.dropped_eq
        registry_eq := fun _ => hregistry
        schema_eq := fun y _ c => by rw [hregistry] }
    · exact absurd (hfits.symm.trans hfits') (by simp)
    · exact absurd (hfits.symm.trans hfits') (by simp)
  · -- The memory took the line, so that of `q`, which does not fail, takes it as well.
    rw [heq, Prod.mk.injEq, Except.ok.injEq] at hhandle
    obtain ⟨rfl, rfl⟩ := hhandle
    obtain ⟨hmemory, _, hsent⟩ := MemoryTransport.send_of_isOk hsend
    have hsend' := MemoryTransport.isOk_send (h.memory_isClosed_eq ▸ hmemory) h.steady
      (q.encoder.parcel q.registry (clock', x)).1 (q.encoder.parcel q.registry (clock', x)).2
    obtain ⟨_, _, hsent'⟩ := MemoryTransport.send_of_isOk hsend'
    rw [hparcel, h.encoder_eq] at hfits
    rcases hq with ⟨hfits', _⟩ | ⟨_, _, hq⟩ | ⟨_, hfailed, _⟩
    · exact absurd (hfits.symm.trans hfits') (by simp)
    · refine ⟨_, hq, rfl, rfl, ?_⟩
      rw [hsent, hsent', hparcel]
      exact { h with
        sent_eq := congrArg (· + 1) h.sent_eq
        latest_eq := by simp only [h.nextId_eq, h.latest_eq]
        nextId_eq := congrArg (· + 1) h.nextId_eq
        registry_eq := fun _ => hregistry
        schema_eq := fun y _ c => by rw [hregistry] }
    · exact absurd (hsend'.symm.trans hfailed) (by simp)
  · rw [heq] at hhandle
    exact absurd (congrArg Prod.fst hhandle) (by simp)

/-- **One turn.**  Either nothing is taken and `q` stays, or the next entry is taken, and `q`
    takes it too. -/
theorem take (h : s.Follows q) (hclock : q.encoder.IgnoresClock) (t : Turn) :
    ((s.take t).left = s.left ∧ (s.take t).Follows q) ∨
    ∃ x xs, s.left = x :: xs ∧ (s.take t).left = xs ∧ ∀ clock, ∃ d q',
      q.handle clock x = (.ok d, q') ∧ q'.failed = q.failed ∧ q'.encoder = q.encoder ∧
        (s.take t).Follows q' := by
  cases t with
  | setFail fails => exact .inl ⟨rfl, h.setFail fails⟩
  | attempt clock =>
    cases hleft : s.left with
    | nil =>
      have hstay : s.take (.attempt clock) = s := by simp only [Retry.take, hleft]
      rw [hstay]
      exact .inl ⟨hleft, h⟩
    | cons x xs =>
      rcases hhandle : s.output.handle clock x with ⟨r, o⟩
      cases r with
      | ok d =>
        rw [take_attempt_of_ok hleft hhandle]
        refine .inr ⟨x, xs, rfl, rfl, fun clock' => ?_⟩
        obtain ⟨q', hq⟩ := h.attempt_of_ok hclock hleft hhandle clock'
        exact ⟨d, q', hq⟩
      | error e =>
        rw [take_attempt_of_error hleft hhandle]
        exact .inl ⟨hleft, h.attempt_of_error hclock hleft hhandle⟩

/-- Turns that leave nothing are a batch of `q` that succeeds. -/
theorem run (h : s.Follows q) (hclock : q.encoder.IgnoresClock) {turns : List Turn}
    (hleft : (s.run turns).left = []) (summary : BatchSummary) {timed : List (Instant × Entry)}
    (htimed : timed.map Prod.snd = s.left) :
    ∃ summary' q', Output.writeFrom summary timed q = (.ok summary', q') ∧
      q'.failed = q.failed ∧ (s.run turns).Follows q' := by
  -- The induction is on the turns; the batch gets shorter only where an entry is taken.
  induction turns generalizing s q summary timed with
  | nil =>
    have hnil : timed = [] := List.map_eq_nil_iff.1 (htimed.trans hleft)
    rw [hnil]
    exact ⟨summary, q, rfl, rfl, h⟩
  | cons t turns ih =>
    rcases h.take hclock t with ⟨hsame, h'⟩ | ⟨x, xs, hcons, htail, hq⟩
    · exact ih h' hclock hleft summary (htimed.trans hsame.symm)
    · rw [hcons] at htimed
      obtain ⟨⟨clock, y⟩, rest, rfl, rfl, hrest⟩ := List.map_eq_cons_iff.1 htimed
      obtain ⟨d, q₁, hhandle, hfailed, hencoder, h'⟩ := hq clock
      obtain ⟨summary', q', hwrite, hfailed', hfollows⟩ :=
        ih h' (hencoder ▸ hclock) hleft (summary.add d) (hrest.trans htail.symm)
      refine ⟨summary', q', ?_, hfailed'.trans hfailed, hfollows⟩
      rw [Output.writeFrom, hhandle]
      exact hwrite

end Follows

/-! ### The end of it -/

/-- **Trying again ends** as soon as the memory does not fail any more, provided that output
    and memory are open. -/
theorem left_run_attempts {o : Output MemoryTransport} (ho : o.isClosed = false)
    (hmemory : o.transport.isClosed = false) (hfails : o.transport.fails = false)
    (clock : Instant) (left : List Entry) (n : Nat) :
    ((⟨o, left, n⟩ : Retry).run (List.replicate left.length (.attempt clock))).left = [] := by
  induction left generalizing o with
  | nil => rfl
  | cons x xs ih =>
    rw [List.length_cons, List.replicate_succ, run]
    have hok := MemoryTransport.isOk_send hmemory hfails
      (o.encoder.parcel o.registry (clock, x)).1 (o.encoder.parcel o.registry (clock, x)).2
    rcases Output.handle_of_isOpen ho clock x with ⟨_, h⟩ | ⟨_, hsend, h⟩ | ⟨_, hsend, _⟩
    · rw [take_attempt_of_ok rfl h]
      apply ih
      · exact ho
      · exact hmemory
      · exact hfails
    · obtain ⟨_, _, hsent⟩ := MemoryTransport.send_of_isOk hsend
      rw [take_attempt_of_ok rfl h, hsent]
      apply ih
      · exact ho
      · exact hmemory
      · exact hfails
    · exact absurd (hok.symm.trans hsend) (by simp)

/-- **Failures do not show.**  If the lines do not depend on the clock, and each entry whose
    attempt failed is attempted again until it is taken, the memory being told to fail and to
    succeed at any time between, then in the end

    * the messages are, in number, source, payload and order, those of a batch of the same
      entries in which nothing fails, whatever its readings of the clock;
    * that batch succeeds, and both outputs counted the same, the failed attempts apart, all
      of which count as failed. -/
theorem run_of_left_eq_nil {o : Output MemoryTransport} (hclock : o.encoder.IgnoresClock)
    {entries : List Entry} {turns : List Turn}
    (hleft : ((start o entries).run turns).left = []) :
    let ended := (start o entries).run turns
    ∀ timed : List (Instant × Entry), timed.map Prod.snd = entries →
      ∃ summary smooth, (o.setFail false).writeTimed timed = (.ok summary, smooth) ∧
        smooth.stats.failed = o.stats.failed ∧
        ended.output.transport.messages = smooth.transport.messages ∧
        ended.output.stats =
          { smooth.stats with failed := smooth.stats.failed + ended.failures } := by
  intro ended timed htimed
  obtain ⟨summary, smooth, hwrite, hfailed, hfollows⟩ :=
    (follows_start o entries).run hclock hleft {} htimed
  have hmessages : ended.output.transport.messages = smooth.transport.messages :=
    congrArg List.reverse hfollows.latest_eq
  -- The batch has no failures of its own, so what failed is counted apart.
  have hcount : ended.output.failed = o.failed + ended.failures := by
    by_cases ho : o.isClosed = true
    · -- A closed output takes nothing, so there was nothing to take.
      have hnil : entries = [] := (left_run_of_isClosed ho turns).symm.trans hleft
      obtain ⟨h₁, h₂⟩ := @failed_run_of_left_eq_nil (start o entries) hnil turns
      show ((start o entries).run turns).output.failed =
        o.failed + ((start o entries).run turns).failures
      rw [h₁, h₂]
      rfl
    · exact failed_run (s := start o entries) (Bool.eq_false_iff.2 ho) turns
  refine ⟨summary, smooth, hwrite, hfailed, hmessages, ?_⟩
  have hsmooth : smooth.failed = o.failed := hfailed
  have hsent : ended.output.sent = smooth.sent := hfollows.sent_eq
  have hdropped : ended.output.dropped = smooth.dropped := hfollows.dropped_eq
  have hregistry : ended.output.registry = smooth.registry := hfollows.registry_eq hleft
  simp only [Output.stats, hsent, hdropped, hcount, hsmooth, hregistry]

/-- Two entries; the first fails twice before the memory is told to succeed. -/
theorem run_of_left_eq_nil_two_failures :
    let o : Output MemoryTransport :=
      { encoder := ⟨none, true, recordSizeCeiling, false, .empty⟩, transport := {} }
    let entries : List Entry :=
      [⟨"a", .epoch, Record.empty.insert "n" (.int 1)⟩, ⟨"b", .epoch, .empty⟩]
    let ended := (start o entries).run [.setFail true, .attempt .epoch, .attempt .epoch,
      .setFail false, .attempt .epoch, .attempt .epoch]
    o.encoder.IgnoresClock ∧ ended.left = [] ∧ ended.failures = 2 ∧
      ∃ summary smooth, (o.setFail false).writeBatch .epoch entries = (.ok summary, smooth) ∧
        ended.output.transport.messages = smooth.transport.messages ∧
        ended.output.stats = { smooth.stats with failed := 2 } := by
  intro o entries ended
  have hclock : o.encoder.IgnoresClock := .inl rfl
  have hleft : ended.left = [] := by decide +kernel
  have hfailures : ended.failures = 2 := by decide +kernel
  obtain ⟨summary, smooth, hwrite, hfailed, hmessages, hstats⟩ :=
    run_of_left_eq_nil hclock hleft (entries.map fun x => (.epoch, x)) rfl
  refine ⟨hclock, hleft, hfailures, summary, smooth, hwrite, hmessages, ?_⟩
  have hnone : smooth.stats.failed = 0 := hfailed
  have hcount : ((start o entries).run _).failures = 2 := hfailures
  rw [hnone, hcount] at hstats
  exact hstats

end Retry

end Telemetry
