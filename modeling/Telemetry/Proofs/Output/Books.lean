import Telemetry.Proofs.Output.Calls
import Telemetry.Proofs.Schema.History
import Telemetry.Transport.Memory

namespace Telemetry

/-!
# The books of an output

What an output counts, what its registry has seen and what its transport was asked say the
same about the entries that it handled.

* `Encoder.parcels` — the source names and lines of entries that are encoded in order.
* `Output.handle_of_isOpen` — what handling one entry can do.
* `Output.Books` — the invariant: registry, log and counters stand for the entries handled.
* `Output.Books.handle`, `Output.Books.step` — one entry, one call; `Output.books_run` — a
  run of calls.
* `Output.run_new` — the books of a new output balance after every run.
-/

/-! ### Parcels -/

namespace Encoder

/-- The prepared record of an entry, with the position of its time column. -/
def schemaCall (e : Encoder) (x : Instant × Entry) : SchemaCall where
  record := e.prepare x.2.record x.2.time x.1
  timeIndex := e.timeIndex (e.prepare x.2.record x.2.time x.1)

/-- The source name and the line of an entry. -/
def parcel (e : Encoder) (g : Registry) (x : Instant × Entry) : String × String :=
  (e.patterns.resolve x.2.tag, (e.encode g (e.schemaCall x).record).1)

/-- The source names and the lines of entries that are encoded in order. -/
def parcels (e : Encoder) (g : Registry) : List (Instant × Entry) → List (String × String)
  | [] => []
  | x :: xs => e.parcel g x :: e.parcels (g.run [e.schemaCall x]).2 xs

/-- The line of a parcel may be sent. -/
def fits (e : Encoder) (p : String × String) : Bool := decide (p.2.utf8ByteSize ≤ e.sizeLimit)

/-- Encoding an entry registers its schema and does no more to the registry. -/
theorem encode_snd (e : Encoder) (g : Registry) (x : Instant × Entry) :
    (e.encode g (e.schemaCall x).record).2 = (g.run [e.schemaCall x]).2 := rfl

/-- Each entry has one parcel, whether or not it fits. -/
theorem length_parcels (e : Encoder) (g : Registry) (xs : List (Instant × Entry)) :
    (e.parcels g xs).length = xs.length := by
  induction xs generalizing g with
  | nil => rfl
  | cons x xs ih => rw [parcels, List.length_cons, ih, List.length_cons]

/-- Parcels of later entries depend on earlier ones by the registry only. -/
theorem parcels_append (e : Encoder) (g : Registry) (xs ys : List (Instant × Entry)) :
    e.parcels g (xs ++ ys) = e.parcels g xs ++ e.parcels (g.run (xs.map e.schemaCall)).2 ys := by
  induction xs generalizing g with
  | nil => rfl
  | cons x xs ih =>
    rw [List.cons_append, parcels, parcels, ih, List.cons_append]
    rfl

/-- Encoding for a send: the parcel if it fits, and the registry that has seen its schema. -/
theorem encodeForSend_eq (e : Encoder) (g : Registry) (clock : Instant) (x : Entry) :
    e.encodeForSend g x.tag x.record x.time clock =
      (if e.fits (e.parcel g (clock, x)) then
          .ready (e.parcel g (clock, x)).1 (e.parcel g (clock, x)).2
        else .tooLarge (e.parcel g (clock, x)).1 (e.parcel g (clock, x)).2.utf8ByteSize e.sizeLimit,
        (g.run [e.schemaCall (clock, x)]).2) := by
  rw [← encode_snd]
  unfold encodeForSend
  by_cases h : e.sizeLimit < (e.parcel g (clock, x)).2.utf8ByteSize
  · have htoo : e.isTooLarge (e.encode g (e.prepare x.record x.time clock)).1 = true :=
      decide_eq_true h
    have hfits : e.fits (e.parcel g (clock, x)) = false := decide_eq_false (by omega)
    simp only [htoo, hfits, if_true, Bool.false_eq_true, if_false]
    rfl
  · have htoo : e.isTooLarge (e.encode g (e.prepare x.record x.time clock)).1 = false :=
      decide_eq_false h
    have hfits : e.fits (e.parcel g (clock, x)) = true := decide_eq_true (by omega)
    simp only [htoo, hfits, if_true, Bool.false_eq_true, if_false]
    rfl

end Encoder

/-- What was sent. -/
def Dispatch.parcel (d : Dispatch) : String × String := (d.source, d.line)

/-- The transport took it. -/
def Dispatch.isOk (d : Dispatch) : Bool := d.answer.isOk

namespace Output

variable {τ : Type}

/-! ### The books -/

/-- The books of an output that has handled `xs` and sent `ds`. -/
structure Books (e : Encoder) (o : Output (Logged τ)) (xs : List (Instant × Entry))
    (ds : List Dispatch) : Prop where
  encoder_eq : o.encoder = e
  registry_eq : o.registry = (Registry.empty.run (xs.map e.schemaCall)).2
  log_eq : o.transport.log = ds.map .send ++ if o.isClosed then [.close] else []
  sends_eq : ds.map Dispatch.parcel = (e.parcels .empty xs).filter e.fits
  sent_eq : o.sent = ds.countP Dispatch.isOk
  failed_eq : o.failed = ds.countP fun d => !d.isOk
  dropped_eq : o.dropped = (e.parcels .empty xs).countP fun p => !e.fits p

namespace Books

variable {e : Encoder} {o : Output (Logged τ)} {xs : List (Instant × Entry)} {ds : List Dispatch}

theorem parcels_append_singleton (h : Books e o xs ds) (x : Instant × Entry) :
    e.parcels .empty (xs ++ [x]) = e.parcels .empty xs ++ [e.parcel o.registry x] := by
  rw [Encoder.parcels_append, ← h.registry_eq]
  rfl

theorem registry_append_singleton (h : Books e o xs ds) (x : Instant × Entry) :
    (o.registry.run [e.schemaCall x]).2 =
      (Registry.empty.run ((xs ++ [x]).map e.schemaCall)).2 := by
  rw [List.map_append, Registry.run_append, ← h.registry_eq]
  rfl

/-- The books after an entry whose line does not fit. -/
theorem drop (h : Books e o xs ds) {x : Instant × Entry}
    (hfits : e.fits (e.parcel o.registry x) = false) :
    Books e { o with registry := (o.registry.run [e.schemaCall x]).2, dropped := o.dropped + 1 }
      (xs ++ [x]) ds where
  encoder_eq := h.encoder_eq
  registry_eq := h.registry_append_singleton x
  log_eq := h.log_eq
  sends_eq := by simp [h.parcels_append_singleton x, hfits, h.sends_eq]
  sent_eq := h.sent_eq
  failed_eq := h.failed_eq
  dropped_eq := by simp [h.parcels_append_singleton x, hfits, h.dropped_eq]

/-- The books after an entry whose line is sent, whatever the transport answers. -/
theorem dispatch (h : Books e o xs ds) (ho : o.isClosed = false) {x : Instant × Entry}
    (hfits : e.fits (e.parcel o.registry x) = true) {d : Dispatch}
    (hd : d.parcel = e.parcel o.registry x) (t : τ) :
    Books e
      { o with
        registry := (o.registry.run [e.schemaCall x]).2
        transport := ⟨t, o.transport.log ++ [.send d]⟩
        sent := o.sent + if d.isOk then 1 else 0
        failed := o.failed + if d.isOk then 0 else 1 }
      (xs ++ [x]) (ds ++ [d]) where
  encoder_eq := h.encoder_eq
  registry_eq := h.registry_append_singleton x
  log_eq := by simp [h.log_eq, ho]
  sends_eq := by simp [h.parcels_append_singleton x, hfits, h.sends_eq, hd]
  sent_eq := by simp [List.countP_append, List.countP_singleton, h.sent_eq]
  failed_eq := by cases hd : d.isOk <;> simp [List.countP_append, h.failed_eq, hd]
  dropped_eq := by simp [h.parcels_append_singleton x, hfits, h.dropped_eq]

/-- Each handled entry is sent with success, sent with an error, or dropped. -/
theorem sum_eq (h : Books e o xs ds) : o.sent + o.failed + o.dropped = xs.length := by
  -- Both lists are cut in two: the sends by their answers, the parcels by their size.
  have hsends : ds.length = (e.parcels .empty xs).countP e.fits := by
    rw [List.countP_eq_length_filter, ← h.sends_eq, List.length_map]
  have hds := List.length_eq_countP_add_countP Dispatch.isOk (l := ds)
  have hxs := List.length_eq_countP_add_countP e.fits (l := e.parcels .empty xs)
  rw [Encoder.length_parcels] at hxs
  simp only [Bool.not_eq_true, Bool.decide_eq_false] at hds hxs
  rw [h.sent_eq, h.failed_eq, h.dropped_eq]
  omega

/-- The schemas are those of the prepared records. -/
theorem schemas_eq (h : Books e o xs ds) :
    o.registry.size = (xs.map fun x => (e.schemaCall x).signature).toFinset.card := by
  have hsize := (Registry.tracks_run (xs.map e.schemaCall)).2.size_eq
  rw [h.registry_eq, hsize, List.map_map]
  rfl

end Books

/-! ### One entry -/

variable [Transport τ]

/-- **What handling an entry can do** while the output is open. The registry sees the
    prepared record in each case; a line that does not fit is counted as dropped, the
    others are sent and counted by their answers. -/
theorem handle_of_isOpen {o : Output τ} (ho : o.isClosed = false) (clock : Instant)
    (x : Entry) :
    let p := o.encoder.parcel o.registry (clock, x)
    let g := (o.registry.run [o.encoder.schemaCall (clock, x)]).2
    let sent := Transport.send o.transport p.1 p.2
    (o.encoder.fits p = false ∧
      o.handle clock x = (.ok .dropped, { o with registry := g, dropped := o.dropped + 1 })) ∨
    (o.encoder.fits p = true ∧ sent.1.isOk = true ∧
      o.handle clock x =
        (.ok .sent, { o with registry := g, transport := sent.2, sent := o.sent + 1 })) ∨
    (o.encoder.fits p = true ∧ sent.1.isOk = false ∧ ∃ err,
      o.handle clock x =
        (.error err, { o with registry := g, transport := sent.2, failed := o.failed + 1 })) := by
  intro p g sent
  -- The size check comes before the send, and the registry is kept in all three outcomes.
  have hopen : ¬ o.isClosed = true := by simp [ho]
  have henc := o.encoder.encodeForSend_eq o.registry clock x
  unfold handle
  rw [if_neg hopen, henc]
  by_cases hp : o.encoder.fits p = true
  · right
    rw [if_pos hp]
    rcases hsend : Transport.send o.transport p.1 p.2 with ⟨answer, t⟩
    have hsent : sent = (answer, t) := hsend
    rw [hsent]
    cases answer with
    | ok u =>
      left
      refine ⟨hp, rfl, ?_⟩
      simp only [p] at hsend
      simp only [hsend]
      rfl
    | error err =>
      right
      refine ⟨hp, rfl, handoffError p.1 err, ?_⟩
      simp only [p] at hsend
      simp only [hsend]
      rfl
  · left
    have hp' : o.encoder.fits p = false := Bool.eq_false_iff.2 hp
    refine ⟨hp', ?_⟩
    rw [if_neg hp]

/-- Handling an entry does not close an output. -/
theorem isClosed_handle (o : Output τ) (clock : Instant) (x : Entry) :
    (o.handle clock x).2.isClosed = o.isClosed := by
  by_cases ho : o.isClosed = true
  · rw [handle_of_isClosed ho]
  · rcases handle_of_isOpen (Bool.eq_false_iff.2 ho) clock x with
      ⟨_, h⟩ | ⟨_, _, h⟩ | ⟨_, _, _, h⟩ <;> rw [h]

theorem isClosed_writeFrom (summary : BatchSummary) (xs : List (Instant × Entry))
    (o : Output τ) : (writeFrom summary xs o).2.isClosed = o.isClosed := by
  induction xs generalizing summary o with
  | nil => rfl
  | cons x xs ih =>
    obtain ⟨clock, x⟩ := x
    rcases hhandle : o.handle clock x with ⟨r, o'⟩
    have hclosed : o'.isClosed = o.isClosed := by
      rw [← isClosed_handle o clock x, hhandle]
    rw [writeFrom, hhandle]
    cases r with
    | ok d => exact (ih (summary.add d) o').trans hclosed
    | error e => exact hclosed

/-- An output is closed by a close and by no other call. -/
theorem isClosed_step (o : Output τ) (c : Call) :
    (o.step c).2.isClosed = (o.isClosed || c.isClose) := by
  cases c with
  | handle clock x => simp only [step, isClosed_handle, Call.isClose, Bool.or_false]
  | write xs => simp only [step, writeTimed, isClosed_writeFrom, Call.isClose, Bool.or_false]
  | close => simp only [step, isClosed_close, Call.isClose, Bool.or_true]

/-- An output is closed once a call has closed it. -/
theorem isClosed_run (o : Output τ) (calls : List Call) :
    (o.run calls).2.isClosed = (o.isClosed || calls.any Call.isClose) := by
  induction calls generalizing o with
  | nil => simp [run]
  | cons c calls ih => simp only [run, ih, isClosed_step, List.any_cons, Bool.or_assoc]

namespace Books

variable {e : Encoder} {o : Output (Logged τ)} {xs : List (Instant × Entry)} {ds : List Dispatch}

/-- **One entry.** -/
theorem handle (h : Books e o xs ds) (ho : o.isClosed = false) (clock : Instant) (x : Entry) :
    ∃ ds', Books e (o.handle clock x).2 (xs ++ [(clock, x)]) ds' := by
  obtain rfl := h.encoder_eq
  let p := o.encoder.parcel o.registry (clock, x)
  let d : Dispatch := ⟨p.1, p.2, (Transport.send o.transport.inner p.1 p.2).1⟩
  rcases handle_of_isOpen ho clock x with ⟨hfits, heq⟩ | ⟨hfits, hok, heq⟩ | ⟨hfits, hok, err, heq⟩
  · rw [heq]
    exact ⟨ds, h.drop hfits⟩
  · have hd : d.isOk = true := hok
    have hbooks := h.dispatch ho hfits (d := d) rfl (Transport.send o.transport.inner p.1 p.2).2
    simp only [hd, if_true, Nat.add_zero] at hbooks
    rw [heq]
    exact ⟨_, hbooks⟩
  · have hd : d.isOk = false := hok
    have hbooks := h.dispatch ho hfits (d := d) rfl (Transport.send o.transport.inner p.1 p.2).2
    simp only [hd, Bool.false_eq_true, if_false, Nat.add_zero] at hbooks
    rw [heq]
    exact ⟨_, hbooks⟩

/-- **A batch.** The entries up to the first failure are handled, the others are not. -/
theorem writeFrom (h : Books e o xs ds) (ho : o.isClosed = false) (summary : BatchSummary)
    (ys : List (Instant × Entry)) :
    ∃ ds', Books e (Output.writeFrom summary ys o).2 (xs ++ turns ys o) ds' := by
  induction ys generalizing o xs ds summary with
  | nil => exact ⟨ds, by simpa [turns, Output.writeFrom] using h⟩
  | cons y ys ih =>
    obtain ⟨clock, y⟩ := y
    obtain ⟨ds', hbooks⟩ := h.handle ho clock y
    have hopen := isClosed_handle o clock y
    rcases hhandle : o.handle clock y with ⟨r, o'⟩
    rw [hhandle] at hbooks hopen
    rw [turns, Output.writeFrom, hhandle]
    cases r with
    | ok delivery =>
      -- The batch goes on, and the output is still open.
      obtain ⟨ds'', hbooks'⟩ := ih hbooks (hopen.trans ho) (summary.add delivery)
      exact ⟨ds'', by simpa using hbooks'⟩
    | error err => exact ⟨ds', hbooks⟩

/-- Closing an open output. -/
theorem close (h : Books e o xs ds) (ho : o.isClosed = false) : Books e o.close.2 xs ds := by
  have hopen : ¬ o.isClosed = true := by simp [ho]
  unfold Output.close
  rw [if_neg hopen, Logged.transport_close]
  exact { h with log_eq := by simp [h.log_eq, ho] }

/-- **One call.** -/
theorem step (h : Books e o xs ds) (c : Call) :
    ∃ ds', Books e (o.step c).2 (xs ++ o.handledBy c) ds' := by
  by_cases ho : o.isClosed = true
  · unfold handledBy
    rw [step_of_isClosed ho, if_pos ho, List.append_nil]
    exact ⟨ds, h⟩
  · have hopen : o.isClosed = false := Bool.eq_false_iff.2 ho
    unfold handledBy
    rw [if_neg ho]
    cases c with
    | handle clock x => exact h.handle hopen clock x
    | write ys => exact h.writeFrom hopen {} ys
    | close => exact ⟨ds, by simpa [Output.step] using h.close hopen⟩

/-- A run of calls. -/
theorem run (h : Books e o xs ds) (calls : List Call) :
    ∃ ds', Books e (o.run calls).2 (xs ++ o.handledIn calls) ds' := by
  induction calls generalizing o xs ds with
  | nil => exact ⟨ds, by simpa [handledIn, Output.run] using h⟩
  | cons c calls ih =>
    obtain ⟨ds', hbooks⟩ := h.step c
    obtain ⟨ds'', hbooks'⟩ := ih hbooks
    exact ⟨ds'', by simpa [handledIn, Output.run] using hbooks'⟩

end Books

/-! ### A new output -/

omit [Transport τ] in
/-- A valid configuration gives an output, whose size limit is the smaller of the chosen and
    the receiver's. -/
theorem exists_new {c : Config} (hc : c.validate = .ok ()) (t : τ) :
    ∃ e : Encoder, Output.new c t = .ok { encoder := e, transport := t } ∧
      e.sizeLimit = min c.recordSizeLimit recordSizeCeiling := by
  have hnew : Output.new c t =
      (Encoder.new c.encoderSettings).map fun e => { encoder := e, transport := t } := by
    rw [Output.new, hc]
  rcases hpatterns : TagPatterns.ofTexts c.tagPatterns with err | patterns
  · rw [Config.validate, hpatterns] at hc
    exact absurd hc (by simp)
  · have hencoder : Encoder.new c.encoderSettings = .ok
        { timeField := c.timeField
          useSourceTime := c.useSourceTime
          sizeLimit := clampRecordSize c.recordSizeLimit
          mapsAsJson := c.mapsAsJson
          patterns := patterns } := by
      rw [Encoder.new, Config.encoderSettings, hpatterns]
      rfl
    rw [hnew, hencoder]
    exact ⟨_, rfl, rfl⟩

omit [Transport τ] in
/-- The books of a new output are empty. -/
theorem books_new (e : Encoder) (t : τ) :
    Books e (Output.logged { encoder := e, transport := t }) [] [] where
  encoder_eq := rfl
  registry_eq := rfl
  log_eq := rfl
  sends_eq := rfl
  sent_eq := rfl
  failed_eq := rfl
  dropped_eq := rfl

/-- **The books balance.** A valid configuration gives an output, and after any calls on it,
    whatever its transport answers:

    * the log changed nothing;
    * the transport was asked to send, in order, the source name and the line of each entry
      handled while the output was open whose line is within the limit, and nothing after
      that but one close, if a call has closed the output;
    * the counters are those of the answers, of the lines over the limit, and of the distinct
      signatures of all entries handled, and the first three add up to these entries;
    * errors of single entries and of batches are send failures;
    * what comes after a close is refused and changes nothing, the transport included. -/
theorem run_new {c : Config} (hc : c.validate = .ok ()) (t : τ) :
    ∃ o : Output τ, Output.new c t = .ok o ∧ ∀ calls : List Call,
      let ran := o.logged.run calls
      let entries := o.logged.handledIn calls
      let parcels := o.encoder.parcels .empty entries
      let fits := fun p : String × String =>
        decide (p.2.utf8ByteSize ≤ min c.recordSizeLimit recordSizeCeiling)
      let stats := (o.run calls).2.stats
      o.run calls = (ran.1, ran.2.forget) ∧
      (∃ ds : List Dispatch,
        ran.2.transport.log =
          ds.map .send ++ (if calls.any Call.isClose then [.close] else []) ∧
        ds.map Dispatch.parcel = parcels.filter fits ∧
        stats =
          { sent := ds.countP Dispatch.isOk
            failed := ds.countP fun d => !d.isOk
            dropped := parcels.countP fun p => !fits p
            schemas := (entries.map fun x => (o.encoder.schemaCall x).signature).toFinset.card }) ∧
      stats.sent + stats.failed + stats.dropped = entries.length ∧
      (∀ err, Answer.handled (.error err) ∈ ran.1 ∨ Answer.wrote (.error err) ∈ ran.1 →
        err.isSendFailure = true) ∧
      ∀ before after, calls = before ++ .close :: after →
        ran = ((o.logged.run (before ++ [.close])).1 ++ after.map Call.refusal,
          (o.logged.run (before ++ [.close])).2) := by
  obtain ⟨e, hnew, hlimit⟩ := exists_new hc t
  refine ⟨{ encoder := e, transport := t }, hnew, fun calls => ?_⟩
  intro ran entries parcels fits stats
  -- The books are kept by the logged run; the run itself is that run with the log forgotten.
  obtain ⟨ds, hbooks⟩ := (books_new e t).run calls
  rw [List.nil_append] at hbooks
  have hfits : e.fits = fits := by
    funext p
    simp only [Encoder.fits, hlimit, fits]
  have hrun : Output.run { encoder := e, transport := t } calls = (ran.1, ran.2.forget) :=
    run_forget (Output.logged { encoder := e, transport := t }) calls
  have hstats : stats = ⟨ran.2.sent, ran.2.dropped, ran.2.failed, ran.2.registry.size⟩ := by
    simp only [stats, hrun]
    rfl
  have hclosed : ran.2.isClosed = calls.any Call.isClose :=
    (isClosed_run _ calls).trans (Bool.false_or _)
  refine ⟨hrun, ⟨ds, ?_, ?_, ?_⟩, ?_, fun err => isSendFailure_of_mem_run, ?_⟩
  · rw [← hclosed]
    exact hbooks.log_eq
  · rw [← hfits]
    exact hbooks.sends_eq
  · rw [hstats, ← hfits, hbooks.sent_eq, hbooks.dropped_eq, hbooks.failed_eq, hbooks.schemas_eq]
  · rw [hstats]
    exact hbooks.sum_eq
  · rintro before after rfl
    exact run_close_append _ before after

/-- The books of an output with the settings of an empty file, over memory. -/
theorem run_new_memory : ({} : Config).validate = .ok () ∧
    ∃ o : Output MemoryTransport, Output.new {} {} = .ok o ∧ ∀ calls,
      (o.run calls).2.stats.sent + (o.run calls).2.stats.failed + (o.run calls).2.stats.dropped =
        (o.logged.handledIn calls).length := by
  obtain ⟨o, hnew, hbooks⟩ := run_new (c := {}) rfl ({} : MemoryTransport)
  exact ⟨rfl, o, hnew, fun calls => (hbooks calls).2.2.1⟩

end Output

end Telemetry
