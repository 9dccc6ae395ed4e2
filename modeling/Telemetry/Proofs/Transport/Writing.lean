import Mathlib.Data.List.Induction
import Telemetry.Proofs.Transport.Framing
import Telemetry.Proofs.Transport.Pipe

namespace Telemetry

/-!
# Writing into a pipe

A writer transport over a pipe, which may become full in the middle of a frame.

* `Message.stream` — what there is to write for parcels.
* `Message.pieces`, `Message.cutFrames` — the parts in which a frame is written;
  `Message.cutFrames_of_mem` — a pipe gets it in these parts.
* `WriterTransport.writeThrough_pipe` — one message and the flush after it.
* `WriterTransport.Call`, `WriterTransport.run` — sends and closes, one after the other.
* `WriterTransport.HasSent` — numbers, bytes, answers and counts after sends; `HasSent.send`,
  `hasSent_run` — one more send keeps them together.
* `WriterTransport.HasSent.map_isOk`, `WriterTransport.flushes_run` — which sends succeed, and how
  many frames are flushed.
* `WriterTransport.run_of_isClosed` — nothing happens after a close.
* `WriterTransport.run_pipe` — sends, and what follows the first close.
* `PipeKind.narrow` — a small pipe that takes few bytes at a time and fails a flush.
-/

/-! ### What fits -/

section Fits

variable {α : Type} {n : Nat} {s b : List α}

/-- What did not fit leaves no room for more. -/
theorem take_take_append : (s.take n ++ b).take n = (s ++ b).take n := by
  rcases Nat.le_total s.length n with hle | hle
  · rw [List.take_of_length_le hle]
  · rw [List.take_append_of_le_length hle,
      List.take_left' (by rw [List.length_take, Nat.min_eq_left hle])]

/-- What did not fit does not fit with more after it. -/
theorem length_take_append_le_iff (hb : b ≠ []) :
    (s.take n ++ b).length ≤ n ↔ (s ++ b).length ≤ n := by
  have hpos := List.length_pos_iff.2 hb
  rw [List.length_append, List.length_append, List.length_take]
  omega

end Fits

/-! ### What there is to write -/

/-- Numbers go on from one part of the parcels to the next. -/
theorem Message.numbered_append (first : Nat) (ps qs : List (String × String)) :
    numbered first (ps ++ qs) = numbered first ps ++ numbered (first + ps.length) qs := by
  induction ps generalizing first with
  | nil => rfl
  | cons p ps ih =>
    rw [List.cons_append, numbered, ih, numbered, List.cons_append, List.length_cons,
      Nat.add_comm ps.length, Nat.add_assoc]

/-- The frames of parcels, numbered from 1, each with a line feed after it. -/
def Message.stream (parcels : List (String × String)) : List UInt8 :=
  (numbered 1 parcels).flatMap fun m => Utf8.encode (m.frame ++ "\n")

/-- One more parcel is one more frame, under the next number. -/
theorem Message.stream_append_singleton (parcels : List (String × String))
    (source payload : String) :
    stream (parcels ++ [(source, payload)]) = stream parcels ++
      Utf8.encode ((⟨source, parcels.length + 1, payload⟩ : Message).frame ++ "\n") := by
  rw [stream, numbered_append, List.flatMap_append, Nat.add_comm 1]
  simp [numbered, stream]

/-! ### The parts of a frame -/

/-- The parts in which a frame and the line feed after it are written: the length, the source, the
    number and the payload, and what stands between them. -/
def Message.pieces (m : Message) : List (List UInt8) :=
  [toString m.bodySize, "\n[", Json.quote m.source, ",", toString m.id, ",", m.payload, "]",
    "\n"].map Utf8.encode

/-- Frames of these messages cut into their parts; other bytes are left whole. -/
def Message.cutFrames (ms : List Message) (bytes : List UInt8) : List (List UInt8) :=
  match ms.find? fun m => m.pieces.flatten = bytes with
  | some m => m.pieces
  | none => [bytes]

/-- The parts make up the frame and the line feed. -/
theorem Message.flatten_pieces (m : Message) :
    m.pieces.flatten = Utf8.encode (m.frame ++ "\n") := by
  have hopen : Utf8.encode "\n[" = Utf8.encode "\n" ++ Utf8.encode "[" := by decide
  simp only [pieces, frame, body, Utf8.encode_append, hopen, List.map_cons, List.map_nil,
    List.flatten_cons, List.flatten_nil, List.append_assoc, List.append_nil]

/-- Nothing is lost in a cut. -/
theorem Message.flatten_cutFrames (ms : List Message) (bytes : List UInt8) :
    (cutFrames ms bytes).flatten = bytes := by
  rw [cutFrames]
  split
  · rename_i m hfind
    simpa using List.find?_some hfind
  · rw [List.flatten_cons, List.flatten_nil, List.append_nil]

/-- **Each of the messages is written in its parts,** since no other message has its frame. -/
theorem Message.cutFrames_of_mem {ms : List Message} {m : Message} (h : m ∈ ms) :
    cutFrames ms (Utf8.encode (m.frame ++ "\n")) = m.pieces := by
  rw [cutFrames]
  split
  · rename_i n hfind
    have hframe : n.pieces.flatten = Utf8.encode (m.frame ++ "\n") := by
      simpa using List.find?_some hfind
    rw [flatten_pieces, Utf8.encode_append, Utf8.encode_append, List.append_cancel_right_eq]
      at hframe
    rw [encode_frame_inj hframe]
  · rename_i hnone
    have hm := List.find?_eq_none.1 hnone m h
    exact absurd (decide_eq_true m.flatten_pieces) hm

/-- A pipe that holds 30 bytes, takes one to three of them at a write, and fails its second flush.
    It gets the frames of these messages in their parts. -/
def PipeKind.narrow (ms : List Message) : PipeKind where
  capacity := 30
  portion n := n % 3
  fault n := "pipe full at write " ++ toString n
  flushAnswer n := if n = 1 then .error "flush failed" else .ok ()
  cut := Message.cutFrames ms
  flatten_cut := Message.flatten_cutFrames ms

namespace WriterTransport

/-! ### One send -/

/-- **One message** is written as far as it fits, and the flush decides if all of it does. -/
theorem writeThrough_pipe {p : Pipe} (h : p.held.length ≤ p.kind.capacity) (bytes : List UInt8) :
    (writeThrough p bytes).2.kind = p.kind ∧
    (writeThrough p bytes).2.held = (p.held ++ bytes).take p.kind.capacity ∧
    ((p.held ++ bytes).length ≤ p.kind.capacity →
      (writeThrough p bytes).2.flushes = p.flushes + 1) ∧
    ((writeThrough p bytes).1 = .ok () ↔ p.kind.flushAnswer p.flushes = .ok () ∧
      (p.held ++ bytes).length ≤ p.kind.capacity) := by
  have htakes := Pipe.takes_write h bytes
  unfold writeThrough
  -- The flush comes only after a write that fits.
  rcases hwrite : Sink.write p bytes with ⟨_ | _, q⟩
  · rw [hwrite] at htakes
    have hlong : ¬ (p.held ++ bytes).length ≤ p.kind.capacity := fun hle => by
      cases htakes.ok_iff.2 hle
    exact ⟨htakes.kind_eq, htakes.held_eq, fun hle => absurd hle hlong,
      iff_of_false (by simp) fun hok => hlong hok.2⟩
  · rw [hwrite] at htakes
    have hfits := htakes.ok_iff.1 rfl
    have hkind : q.kind = p.kind := htakes.kind_eq
    have hflushes : q.flushes = p.flushes := htakes.flushes_eq
    refine ⟨hkind, htakes.held_eq, fun _ => congrArg (· + 1) hflushes, ?_⟩
    show q.kind.flushAnswer q.flushes = .ok () ↔ _
    rw [hkind, hflushes, and_iff_left hfits]

/-- A message is flushed exactly if all of it fits. -/
theorem flushes_writeThrough {p : Pipe} (h : p.held.length ≤ p.kind.capacity)
    (bytes : List UInt8) :
    (writeThrough p bytes).2.flushes =
      p.flushes + if (p.held ++ bytes).length ≤ p.kind.capacity then 1 else 0 := by
  by_cases hfits : (p.held ++ bytes).length ≤ p.kind.capacity
  · rw [if_pos hfits]
    exact (writeThrough_pipe h bytes).2.2.1 hfits
  · have htakes := Pipe.takes_write h bytes
    rw [if_neg hfits]
    unfold writeThrough
    rcases hwrite : Sink.write p bytes with ⟨_ | _, q⟩
    · rw [hwrite] at htakes
      exact htakes.flushes_eq
    · rw [hwrite] at htakes
      exact absurd (htakes.ok_iff.1 rfl) hfits

/-- The error of a sink becomes that of a send, under its source name. -/
theorem mapError_sendFailed (source : String) (r : Except String Unit) :
    (r.mapError (Error.sendFailed source) = .ok () ↔ r = .ok ()) ∧
      (r.mapError (Error.sendFailed source) = .ok () ∨
        ∃ text, r.mapError (Error.sendFailed source) = .error (.sendFailed source text)) := by
  cases r with
  | ok _ => exact ⟨iff_of_true rfl rfl, .inl rfl⟩
  | error text => exact ⟨iff_of_false nofun nofun, .inr ⟨text, rfl⟩⟩

/-! ### Calls -/

/-- A call on a writer transport. -/
inductive Call where
  | send (source payload : String)
  | close

/-- The send of a parcel. -/
def Call.ofParcel (p : String × String) : Call := .send p.1 p.2

/-- What a closed transport answers. -/
def Call.refusal : Call → Except Error Unit
  | .send _ _ => .error .closed
  | .close => .ok ()

variable {σ : Type} [Sink σ]

/-- A send that is not refused. -/
theorem send_eq {t : WriterTransport σ} (h : t.isClosed = false) (source payload : String) :
    t.send source payload =
      let r := writeThrough t.sink
        (Utf8.encode ((⟨source, t.nextId, payload⟩ : Message).frame ++ "\n"))
      let answer := r.1.mapError (.sendFailed source)
      (answer, { t with
        sink := r.2, nextId := t.nextId + 1, counted := t.counted.track answer }) := by
  rw [send, if_neg (by rw [h]; decide)]

/-- One call. -/
def step (t : WriterTransport σ) : Call → Except Error Unit × WriterTransport σ
  | .send source payload => t.send source payload
  | .close => t.close

/-- Calls one after the other, with their answers. -/
def run (t : WriterTransport σ) : List Call → List (Except Error Unit) × WriterTransport σ
  | [] => ([], t)
  | c :: cs =>
    let (answer, t) := t.step c
    let (answers, t) := t.run cs
    (answer :: answers, t)

theorem run_append (t : WriterTransport σ) (cs ds : List Call) :
    t.run (cs ++ ds) = ((t.run cs).1 ++ ((t.run cs).2.run ds).1, ((t.run cs).2.run ds).2) := by
  induction cs generalizing t with
  | nil => rfl
  | cons c cs ih => simp only [List.cons_append, run, ih]

/-- **After a close** each send is refused, each close succeeds, and nothing changes. -/
theorem run_of_isClosed {t : WriterTransport σ} (h : t.isClosed = true) (cs : List Call) :
    t.run cs = (cs.map Call.refusal, t) := by
  induction cs with
  | nil => rfl
  | cons c cs ih =>
    have hstep : t.step c = (c.refusal, t) := by
      cases c <;> simp [step, send, close, h, Call.refusal]
    simp only [run, hstep, ih, List.map_cons]

/-! ### Sends -/

/-- What a send answers if so many were sent before, when there is so much to write with its own
    frame: it succeeds exactly if all of it fits and the flush succeeds, and else names its
    source. -/
structure Answered (kind : PipeKind) (before : Nat) (stream : List UInt8) (source : String)
    (answer : Except Error Unit) : Prop where
  ok_iff : answer = .ok () ↔ kind.flushAnswer before = .ok () ∧ stream.length ≤ kind.capacity
  ok_or_sendFailed : answer = .ok () ∨ ∃ text, answer = .error (.sendFailed source text)

/-- What has become of a transport over an empty pipe after so many sends. -/
structure HasSent (kind : PipeKind) (parcels : List (String × String))
    (answers : List (Except Error Unit)) (t : WriterTransport Pipe) : Prop where
  isOpen : t.isClosed = false
  kind_eq : t.sink.kind = kind
  /-- each send takes the next number -/
  nextId_eq : t.nextId = parcels.length + 1
  /-- the pipe holds what fits of all frames -/
  held_eq : t.sink.held = (Message.stream parcels).take kind.capacity
  /-- there is a flush for each frame that fits -/
  flushes_eq : (Message.stream parcels).length ≤ kind.capacity → t.sink.flushes = parcels.length
  length_eq : answers.length = parcels.length
  answered {k : Nat} {source payload : String} {answer : Except Error Unit}
    (hparcel : parcels[k]? = some (source, payload)) (hanswer : answers[k]? = some answer) :
    Answered kind k (Message.stream (parcels.take (k + 1))) source answer
  counted_eq : t.counted =
    { sent := answers.countP (·.isOk), failed := answers.countP (!·.isOk) }

theorem hasSent_nil (kind : PipeKind) : HasSent kind [] [] { sink := { kind := kind } } where
  isOpen := rfl
  kind_eq := rfl
  nextId_eq := rfl
  held_eq := List.take_nil.symm
  flushes_eq _ := rfl
  length_eq := rfl
  answered hparcel _ := by simp at hparcel
  counted_eq := rfl

/-- The answer of a send is counted. -/
theorem track_countP (answers : List (Except Error Unit)) (answer : Except Error Unit) :
    ({ sent := answers.countP (·.isOk), failed := answers.countP (!·.isOk) } :
        TransportStats).track answer =
      { sent := (answers ++ [answer]).countP (·.isOk),
        failed := (answers ++ [answer]).countP (!·.isOk) } := by
  rw [List.countP_append, List.countP_append]
  cases answer <;> rfl

namespace HasSent

variable {kind : PipeKind} {parcels : List (String × String)}
  {answers : List (Except Error Unit)} {t : WriterTransport Pipe}

/-- What fits with more after it fits. -/
theorem flushes_of_fits (h : HasSent kind parcels answers t) {p : String × String}
    (hfits : (Message.stream (parcels ++ [p])).length ≤ kind.capacity) :
    t.sink.flushes = parcels.length := by
  rw [Message.stream_append_singleton, List.length_append] at hfits
  exact h.flushes_eq (by omega)

/-- The pipe holds no more than it can. -/
theorem length_held_le (h : HasSent kind parcels answers t) :
    t.sink.held.length ≤ t.sink.kind.capacity := by
  rw [h.held_eq, h.kind_eq]
  exact List.length_take_le _ _

/-- The frame of one more parcel. -/
theorem stream_next (h : HasSent kind parcels answers t) (source payload : String) :
    Message.stream (parcels ++ [(source, payload)]) = Message.stream parcels ++
      Utf8.encode ((⟨source, t.nextId, payload⟩ : Message).frame ++ "\n") := by
  rw [Message.stream_append_singleton, h.nextId_eq]

/-- A frame fits into what is left exactly if all frames up to it fit: what did not fit before
    does not fit with more to write. -/
theorem fits_iff (h : HasSent kind parcels answers t) (source payload : String) :
    (t.sink.held ++ Utf8.encode ((⟨source, t.nextId, payload⟩ : Message).frame ++ "\n")).length ≤
        t.sink.kind.capacity ↔
      (Message.stream (parcels ++ [(source, payload)])).length ≤ kind.capacity := by
  have hne : Utf8.encode ((⟨source, t.nextId, payload⟩ : Message).frame ++ "\n") ≠ [] := by
    rw [Utf8.encode_append]
    exact List.append_ne_nil_of_right_ne_nil _ (by decide)
  rw [h.held_eq, h.kind_eq, length_take_append_le_iff hne, h.stream_next]

/-- **One more send.** -/
theorem send (h : HasSent kind parcels answers t) (source payload : String) :
    HasSent kind (parcels ++ [(source, payload)]) (answers ++ [(t.send source payload).1])
      (t.send source payload).2 := by
  obtain ⟨hkind, hheld, hflushes, hok⟩ := writeThrough_pipe h.length_held_le
    (Utf8.encode ((⟨source, t.nextId, payload⟩ : Message).frame ++ "\n"))
  -- The pipe may be told by the stream.
  rw [h.fits_iff] at hflushes hok
  rw [h.kind_eq] at hok
  rw [h.held_eq, h.kind_eq, take_take_append, ← h.stream_next] at hheld
  rw [send_eq h.isOpen]
  generalize writeThrough t.sink _ = r at *
  have hlast : Answered kind parcels.length (Message.stream (parcels ++ [(source, payload)])) source
      (r.1.mapError (.sendFailed source)) := by
    have hanswer := mapError_sendFailed source r.1
    refine ⟨?_, hanswer.2⟩
    rw [hanswer.1, hok]
    exact and_congr_left fun hfits => by rw [h.flushes_of_fits hfits]
  have hlength : (parcels ++ [(source, payload)]).length = parcels.length + 1 := by
    rw [List.length_append, List.length_singleton]
  refine ⟨h.isOpen, hkind.trans h.kind_eq, ?_, hheld, fun hfits => ?_, ?_, ?_, ?_⟩
  · rw [hlength, ← h.nextId_eq]
  · rw [hlength, ← h.flushes_of_fits hfits]
    exact hflushes hfits
  · rw [hlength, List.length_append, List.length_singleton, h.length_eq]
  · intro k source' payload' answer hparcel hanswer
    rcases Nat.lt_or_ge k parcels.length with hlt | hge
    · rw [List.getElem?_append_left hlt] at hparcel
      rw [List.getElem?_append_left (by rwa [h.length_eq])] at hanswer
      rw [List.take_append_of_le_length hlt]
      exact h.answered hparcel hanswer
    · -- No index is beyond the last.
      obtain rfl : k = parcels.length := by
        have hk := (List.getElem?_eq_some_iff.1 hparcel).1
        omega
      rw [List.getElem?_concat_length, Option.some.injEq, Prod.mk.injEq] at hparcel
      rw [← h.length_eq, List.getElem?_concat_length, Option.some.injEq] at hanswer
      rw [← hparcel.1, ← hanswer, ← hlength, List.take_length]
      exact hlast
  · show t.counted.track _ = _
    rw [h.counted_eq]
    exact track_countP answers _

/-- One more frame is flushed if it fits. -/
theorem flushes_send (h : HasSent kind parcels answers t) (source payload : String) :
    (t.send source payload).2.sink.flushes = t.sink.flushes +
      if (Message.stream (parcels ++ [(source, payload)])).length ≤ kind.capacity then 1
      else 0 := by
  rw [send_eq h.isOpen]
  show (writeThrough t.sink _).2.flushes = _
  simp only [flushes_writeThrough h.length_held_le, h.fits_iff]

/-- Which sends succeed: those whose flush succeeds, up to the first that does not fit. -/
theorem map_isOk (h : HasSent kind parcels answers t) :
    answers.map (·.isOk) = (List.range parcels.length).map fun k =>
      (kind.flushAnswer k).isOk &&
        decide ((Message.stream (parcels.take (k + 1))).length ≤ kind.capacity) := by
  have hisOk : ∀ {ε : Type} {r : Except ε Unit}, r.isOk = true ↔ r = .ok () := by
    intro ε r
    cases r
    · exact iff_of_false nofun nofun
    · exact iff_of_true rfl rfl
  apply List.ext_getElem
  · rw [List.length_map, List.length_map, List.length_range, h.length_eq]
  · intro k hanswer hparcel
    rw [List.length_map] at hanswer
    rw [List.length_map, List.length_range] at hparcel
    have hanswered := h.answered (List.getElem?_eq_getElem hparcel)
      (List.getElem?_eq_getElem hanswer)
    rw [List.getElem_map, List.getElem_map, List.getElem_range, Bool.eq_iff_iff, hisOk,
      hanswered.ok_iff, Bool.and_eq_true, hisOk, decide_eq_true_eq]

end HasSent

/-- **Sends** on a transport over an empty pipe. -/
theorem hasSent_run (kind : PipeKind) (parcels : List (String × String)) :
    let t : WriterTransport Pipe := { sink := { kind := kind } }
    HasSent kind parcels (t.run (parcels.map Call.ofParcel)).1
      (t.run (parcels.map Call.ofParcel)).2 := by
  intro t
  induction parcels using List.reverseRecOn with
  | nil => exact hasSent_nil kind
  | append_singleton parcels p ih =>
    rw [List.map_append, run_append]
    exact ih.send p.1 p.2

/-- Each frame that fits is flushed, and no other one. -/
theorem flushes_run (kind : PipeKind) (parcels : List (String × String)) :
    let t : WriterTransport Pipe := { sink := { kind := kind } }
    (t.run (parcels.map Call.ofParcel)).2.sink.flushes = (List.range parcels.length).countP fun k =>
      (Message.stream (parcels.take (k + 1))).length ≤ kind.capacity := by
  intro t
  induction parcels using List.reverseRecOn with
  | nil => rfl
  | append_singleton parcels p ih =>
    have hlast := (hasSent_run kind parcels).flushes_send p.1 p.2
    -- The frames before are counted as without the last one.
    have hbefore : (List.range parcels.length).countP (fun k =>
          (Message.stream ((parcels ++ [p]).take (k + 1))).length ≤ kind.capacity) =
        (List.range parcels.length).countP fun k =>
          (Message.stream (parcels.take (k + 1))).length ≤ kind.capacity := by
      refine List.countP_congr fun k hk => ?_
      rw [List.take_append_of_le_length (List.mem_range.1 hk)]
    rw [List.map_append, run_append, List.length_append, List.length_singleton, List.range_succ,
      List.countP_append, hbefore, ← ih, List.countP_singleton,
      List.take_of_length_le (by simp)]
    simp only [decide_eq_true_eq]
    exact hlast

/-- The first close flushes the sink. -/
theorem close_eq {t : WriterTransport σ} (h : t.isClosed = false) :
    t.close = ((Sink.flush t.sink).1.mapError .io,
      { t with sink := (Sink.flush t.sink).2, isClosed := true }) := by
  rw [close, if_neg (by rw [h]; decide)]

/-- **Sends, a close, and what follows it,** on a transport over an empty pipe.  The sends take the
    numbers from 1, whether or not they fail; the pipe holds what fits of all their frames, each
    with a line feed; a send succeeds exactly if the frames up to its own fit and the flush
    succeeds, and else names its source; and they are counted as they were answered (`HasSent`).

    The first close flushes the pipe and answers as that does.  Whatever calls follow, each send is
    refused, each close succeeds, and bytes, number and counts stay as they are. -/
theorem run_pipe (kind : PipeKind) (parcels : List (String × String)) (rest : List Call) :
    let start : WriterTransport Pipe := { sink := { kind := kind } }
    let sent := start.run (parcels.map Call.ofParcel)
    let t := sent.2
    HasSent kind parcels sent.1 t ∧
    start.run (parcels.map Call.ofParcel ++ .close :: rest) =
      (sent.1 ++ (kind.flushAnswer t.sink.flushes).mapError .io :: rest.map Call.refusal,
        { t with sink := { t.sink with flushes := t.sink.flushes + 1 }, isClosed := true }) := by
  intro start sent t
  have hsent : HasSent kind parcels sent.1 t := hasSent_run kind parcels
  have hclose : t.step .close = ((kind.flushAnswer t.sink.flushes).mapError .io,
      { t with sink := { t.sink with flushes := t.sink.flushes + 1 }, isClosed := true }) := by
    rw [← hsent.kind_eq]
    exact close_eq hsent.isOpen
  refine ⟨hsent, ?_⟩
  rw [run_append, run]
  show (sent.1 ++ ((t.step .close).1 :: ((t.step .close).2.run rest).1),
    ((t.step .close).2.run rest).2) = _
  rw [hclose, run_of_isClosed rfl]

/-- Three frames of twelve bytes, each in its parts, and a narrow pipe: the first one is sent, the
    flush after the second one fails, and the third one does not fit.  Then the pipe is closed,
    twice. -/
theorem run_pipe_narrow :
    let parcels := [("t", "x"), ("t", "y"), ("t", "z")]
    let start : WriterTransport Pipe := { sink := { kind := .narrow (Message.numbered 1 parcels) } }
    let r := start.run (parcels.map Call.ofParcel ++ [.close, .send "t" "w", .close])
    (∀ m ∈ Message.numbered 1 parcels,
      start.sink.kind.cut (Utf8.encode (m.frame ++ "\n")) = m.pieces) ∧
      r.1.map (·.isOk) = [true, false, false, true, false, true] ∧
      r.2.sink.held = (Message.stream parcels).take 30 ∧ r.2.nextId = 4 ∧
      r.2.counted = { sent := 1, failed := 2 } := by
  intro parcels start r
  obtain ⟨hsent, hrun⟩ :=
    run_pipe (.narrow (Message.numbered 1 parcels)) parcels [.send "t" "w", .close]
  -- What fits is computed from the stream, and the answers follow from that.
  have hanswers : (start.run (parcels.map Call.ofParcel)).1.map (·.isOk) =
      [true, false, false] := by
    rw [hsent.map_isOk]
    decide +kernel
  have hflushes : (start.run (parcels.map Call.ofParcel)).2.sink.flushes = 2 := by
    rw [flushes_run]
    decide +kernel
  have hcounted : (start.run (parcels.map Call.ofParcel)).2.counted =
      { sent := 1, failed := 2 } := by
    have hsucceeded := congrArg (List.countP id) hanswers
    have hfailed := congrArg (List.countP (!·)) hanswers
    rw [List.countP_map] at hsucceeded hfailed
    rw [hsent.counted_eq]
    exact congrArg₂ (fun sent failed => ({ sent, failed } : TransportStats)) hsucceeded hfailed
  have hr : r = _ := hrun
  rw [hr, hflushes]
  refine ⟨fun m => Message.cutFrames_of_mem, ?_, hsent.held_eq, hsent.nextId_eq, hcounted⟩
  rw [List.map_append, hanswers]
  rfl

end WriterTransport

end Telemetry
