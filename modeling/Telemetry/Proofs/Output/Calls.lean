import Telemetry.Output

namespace Telemetry

/-!
# Calls on an output

A run is a list of calls on one output.  What its transport is asked is seen by a transport
that keeps a log and is otherwise the given one.

* `Logged` — a transport with a log of what it was asked and what it answered.
* `Output.Call`, `Output.step`, `Output.run` — one call, and calls one after the other.
* `Output.run_forget` — the log changes nothing: a run over a logged transport gives the
  answers and the state of the run over the transport itself.
* `Output.handledIn` — the entries that are handled while the output is open.
* `Output.run_of_isClosed` — a closed output refuses every call and stays as it is.
-/

/-! ### A transport with a log -/

/-- One send, with its answer. -/
structure Dispatch where
  source : String
  line : String
  answer : Except Error Unit

/-- What a transport was asked. -/
inductive TransportCall where
  | send (d : Dispatch)
  | close

/-- A transport and the log of what it was asked, in order. -/
structure Logged (τ : Type) where
  inner : τ
  log : List TransportCall

variable {τ : Type} [Transport τ]

namespace Logged

/-- Sends, and notes the line and the answer. -/
def send (t : Logged τ) (source line : String) : Except Error Unit × Logged τ :=
  let (answer, inner) := Transport.send t.inner source line
  (answer, ⟨inner, t.log ++ [.send ⟨source, line, answer⟩]⟩)

/-- Closes, and notes it. -/
def close (t : Logged τ) : Except Error Unit × Logged τ :=
  let (answer, inner) := Transport.close t.inner
  (answer, ⟨inner, t.log ++ [.close]⟩)

instance : Transport (Logged τ) where
  send := send
  close := close
  name t := Transport.name t.inner
  stats t := Transport.stats t.inner

/-- A logged transport answers as the one inside, and logs what it answered. -/
theorem transport_send (t : Logged τ) (source line : String) :
    Transport.send t source line =
      ((Transport.send t.inner source line).1, ⟨(Transport.send t.inner source line).2,
        t.log ++ [.send ⟨source, line, (Transport.send t.inner source line).1⟩]⟩) := rfl

theorem transport_close (t : Logged τ) :
    Transport.close t =
      ((Transport.close t.inner).1, ⟨(Transport.close t.inner).2, t.log ++ [.close]⟩) := rfl

end Logged

namespace Output

/-- The output over the same transport, with an empty log. -/
def logged (o : Output τ) : Output (Logged τ) where
  encoder := o.encoder
  registry := o.registry
  transport := ⟨o.transport, []⟩
  sent := o.sent
  dropped := o.dropped
  failed := o.failed
  isClosed := o.isClosed

/-- The output over the transport itself. -/
def forget (o : Output (Logged τ)) : Output τ where
  encoder := o.encoder
  registry := o.registry
  transport := o.transport.inner
  sent := o.sent
  dropped := o.dropped
  failed := o.failed
  isClosed := o.isClosed

/-! ### Calls and runs -/

/-- A call on an output. Entries come with the clock's reading at the time they are
    handled. -/
inductive Call where
  | handle (clock : Instant) (x : Entry)
  | write (xs : List (Instant × Entry))
  | close

/-- What a call returns. -/
inductive Answer where
  | handled (r : Except Error Delivery)
  | wrote (r : Except Error BatchSummary)
  | closed (r : Except Error Unit)

/-- A call that closes the output. -/
def Call.isClose : Call → Bool
  | .close => true
  | _ => false

/-- What a closed output answers. -/
def Call.refusal : Call → Answer
  | .handle _ _ => .handled (.error .closed)
  | .write [] => .wrote (.ok {})
  | .write (_ :: _) => .wrote (.error .closed)
  | .close => .closed (.ok ())

/-- One call. -/
def step (o : Output τ) : Call → Answer × Output τ
  | .handle clock x =>
    let (r, o) := o.handle clock x
    (.handled r, o)
  | .write xs =>
    let (r, o) := o.writeTimed xs
    (.wrote r, o)
  | .close =>
    let (r, o) := o.close
    (.closed r, o)

/-- Calls one after the other, with their answers. -/
def run (o : Output τ) : List Call → List Answer × Output τ
  | [] => ([], o)
  | c :: cs =>
    let (answer, o) := o.step c
    let (answers, o) := o.run cs
    (answer :: answers, o)

theorem run_append (o : Output τ) (cs ds : List Call) :
    o.run (cs ++ ds) = ((o.run cs).1 ++ ((o.run cs).2.run ds).1, ((o.run cs).2.run ds).2) := by
  induction cs generalizing o with
  | nil => rfl
  | cons c cs ih => simp only [List.cons_append, run, ih]

/-! ### What is handled -/

/-- The entries of a batch whose turn comes: those up to the first that fails. -/
def turns : List (Instant × Entry) → Output τ → List (Instant × Entry)
  | [], _ => []
  | (clock, x) :: xs, o =>
    match o.handle clock x with
    | (.ok _, o) => (clock, x) :: turns xs o
    | (.error _, _) => [(clock, x)]

/-- The entries that a call handles while the output is open. -/
def handledBy (o : Output τ) (c : Call) : List (Instant × Entry) :=
  if o.isClosed then []
  else
    match c with
    | .handle clock x => [(clock, x)]
    | .write xs => turns xs o
    | .close => []

/-- The entries that are handled while the output is open, in order. -/
def handledIn (o : Output τ) : List Call → List (Instant × Entry)
  | [] => []
  | c :: cs => o.handledBy c ++ (o.step c).2.handledIn cs

/-! ### The log changes nothing -/

/-- An entry is handled alike without the log. -/
theorem forget_handle (o : Output (Logged τ)) (clock : Instant) (x : Entry) :
    o.forget.handle clock x = ((o.handle clock x).1, (o.handle clock x).2.forget) := by
  unfold handle
  by_cases ho : o.isClosed = true
  · have hf : o.forget.isClosed = true := ho
    rw [if_pos ho, if_pos hf]
  · have hf : ¬ o.forget.isClosed = true := ho
    rw [if_neg ho, if_neg hf]
    -- Encoding does not look at the transport.
    have henc : o.forget.encoder.encodeForSend o.forget.registry x.tag x.record x.time clock =
        o.encoder.encodeForSend o.registry x.tag x.record x.time clock := rfl
    rw [henc]
    rcases o.encoder.encodeForSend o.registry x.tag x.record x.time clock with ⟨outcome, g⟩
    cases outcome with
    | tooLarge source size limit => rfl
    | ready source line =>
      rcases hinner : Transport.send o.transport.inner source line with ⟨r, t⟩
      have hsend := Logged.transport_send o.transport source line
      have hforget : Transport.send o.forget.transport source line = (r, t) := hinner
      rw [hinner] at hsend
      simp only [hsend, hforget]
      cases r <;> rfl

theorem forget_writeFrom (summary : BatchSummary) (xs : List (Instant × Entry))
    (o : Output (Logged τ)) :
    writeFrom summary xs o.forget =
      ((writeFrom summary xs o).1, (writeFrom summary xs o).2.forget) := by
  induction xs generalizing summary o with
  | nil => rfl
  | cons x xs ih =>
    obtain ⟨clock, x⟩ := x
    rw [writeFrom, writeFrom, forget_handle]
    rcases o.handle clock x with ⟨r, o'⟩
    cases r with
    | ok d => exact ih (summary.add d) o'
    | error e => rfl

theorem forget_close (o : Output (Logged τ)) :
    o.forget.close = (o.close.1, o.close.2.forget) := by
  unfold close
  by_cases ho : o.isClosed = true
  · have hf : o.forget.isClosed = true := ho
    rw [if_pos ho, if_pos hf]
  · have hf : ¬ o.forget.isClosed = true := ho
    rw [if_neg ho, if_neg hf]
    rfl

theorem forget_step (o : Output (Logged τ)) (c : Call) :
    o.forget.step c = ((o.step c).1, (o.step c).2.forget) := by
  cases c with
  | handle clock x => simp only [step, forget_handle]
  | write xs => simp only [step, writeTimed, forget_writeFrom]
  | close => simp only [step, forget_close]

/-- **The log changes nothing.** -/
theorem run_forget (o : Output (Logged τ)) (calls : List Call) :
    o.forget.run calls = ((o.run calls).1, (o.run calls).2.forget) := by
  induction calls generalizing o with
  | nil => rfl
  | cons c calls ih => simp only [run, forget_step, ih]

/-! ### A closed output -/

/-- A closed output refuses entries, and stays as it is. -/
theorem handle_of_isClosed {o : Output τ} (ho : o.isClosed = true) (clock : Instant)
    (x : Entry) : o.handle clock x = (.error .closed, o) := by
  rw [handle, if_pos ho]

theorem step_of_isClosed {o : Output τ} (ho : o.isClosed = true) (c : Call) :
    o.step c = (c.refusal, o) := by
  cases c with
  | handle clock x => simp only [step, handle_of_isClosed ho, Call.refusal]
  | write xs =>
    cases xs with
    | nil => rfl
    | cons x xs => simp only [step, writeTimed, writeFrom, handle_of_isClosed ho, Call.refusal]
  | close => simp only [step, close, ho, if_true, Call.refusal]

/-- **A closed output refuses every call** and stays as it is, its transport included. -/
theorem run_of_isClosed {o : Output τ} (ho : o.isClosed = true) (calls : List Call) :
    o.run calls = (calls.map Call.refusal, o) := by
  induction calls with
  | nil => rfl
  | cons c calls ih => simp only [run, step_of_isClosed ho, ih, List.map_cons]

/-- Closing closes, even if the transport fails to close. -/
theorem isClosed_close (o : Output τ) : o.close.2.isClosed = true := by
  unfold close
  by_cases ho : o.isClosed = true
  · rw [if_pos ho]
    exact ho
  · rw [if_neg ho]

/-- Calls after a close are refused one by one, and change nothing. -/
theorem run_close_append (o : Output τ) (before after : List Call) :
    o.run (before ++ .close :: after) =
      ((o.run (before ++ [.close])).1 ++ after.map Call.refusal,
        (o.run (before ++ [.close])).2) := by
  have hclosed : (o.run (before ++ [.close])).2.isClosed = true := by
    rw [run_append]
    exact isClosed_close _
  -- What is refused is all that comes after the close itself.
  have hsplit : before ++ Call.close :: after = (before ++ [.close]) ++ after := by simp
  rw [hsplit, run_append, run_of_isClosed hclosed]

/-! ### Errors -/

/-- An error of handling came from the handoff. -/
theorem isSendFailure_of_handle {o : Output τ} {clock : Instant} {x : Entry} {e : Error}
    (h : (o.handle clock x).1 = .error e) : e.isSendFailure = true := by
  unfold handle at h
  split at h
  · simp only [Except.error.injEq] at h
    rw [← h]
    rfl
  · rcases hout : o.encoder.encodeForSend o.registry x.tag x.record x.time clock with ⟨outcome, g⟩
    rw [hout] at h
    cases outcome with
    | tooLarge source size limit => simp at h
    | ready source line =>
      simp only at h
      rcases hsend : Transport.send o.transport source line with ⟨r, t⟩
      rw [hsend] at h
      cases r with
      | ok u => simp at h
      | error err =>
        simp only [Except.error.injEq] at h
        rw [← h]
        exact isSendFailure_handoffError source err

/-- A batch fails only because a send failed. -/
theorem isSendFailure_of_writeFrom {summary : BatchSummary} {xs : List (Instant × Entry)}
    {o : Output τ} {e : Error} (h : (writeFrom summary xs o).1 = .error e) :
    e.isSendFailure = true := by
  induction xs generalizing summary o with
  | nil => simp [writeFrom] at h
  | cons x xs ih =>
    obtain ⟨clock, x⟩ := x
    rw [writeFrom] at h
    rcases hhandle : o.handle clock x with ⟨r, o'⟩
    rw [hhandle] at h
    cases r with
    | ok d => exact ih h
    | error err =>
      simp only [Except.error.injEq] at h
      exact isSendFailure_of_handle (by rw [hhandle, h])

/-- **Errors are send failures,** those of records and those of batches. -/
theorem isSendFailure_of_mem_run {o : Output τ} {calls : List Call} {e : Error}
    (h : Answer.handled (.error e) ∈ (o.run calls).1 ∨ Answer.wrote (.error e) ∈ (o.run calls).1) :
    e.isSendFailure = true := by
  induction calls generalizing o with
  | nil => simp [run] at h
  | cons c calls ih =>
    simp only [run, List.mem_cons] at h
    -- An error of a later call is found by induction, so only this call is left.
    by_cases hrest : Answer.handled (.error e) ∈ ((o.step c).2.run calls).1 ∨
        Answer.wrote (.error e) ∈ ((o.step c).2.run calls).1
    · exact ih hrest
    · rw [not_or] at hrest
      simp only [hrest.1, hrest.2, or_false] at h
      cases c with
      | handle clock x =>
        simp only [step, Answer.handled.injEq, reduceCtorEq, or_false] at h
        exact isSendFailure_of_handle h.symm
      | write xs =>
        simp only [step, Answer.wrote.injEq, reduceCtorEq, false_or] at h
        exact isSendFailure_of_writeFrom h.symm
      | close => simp [step] at h

end Output

end Telemetry
