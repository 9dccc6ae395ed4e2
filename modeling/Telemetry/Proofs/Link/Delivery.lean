import Mathlib.Data.List.Induction
import Telemetry.Proofs.Ack.Pending
import Telemetry.Proofs.Link.Ledger
import Telemetry.Proofs.Transport.Framing

namespace Telemetry

/-!
# Delivery over a link

Whatever happens to a link that awaits acknowledgements, what it remembers, writes and counts
is told by its history.

* `Link.Waits` — a message was sent, and since then neither acknowledged nor dropped.
* `Link.Faithful` — the invariant: numbers, waiting frames, writes and counters stand for the
  history.
* `Link.Faithful.move` — one event; `Link.faithful_run` — a run of steps.
* `Link.run_start` — so frames wait exactly as long as they should, and none is written after
  its message was acknowledged, dropped or given up.
-/

namespace Link

/-! ### What a history tells -/

/-- The message of a send that was not refused. -/
def Deed.message? : Deed → Option Message
  | .sent m | .failed m => some m
  | _ => none

/-- A message of that number is acknowledged, or dropped by a round. -/
def Deed.Retires (id : Nat) : Deed → Prop
  | .acked i => i = id
  | .round evicted => id ∈ evicted
  | _ => False

/-- An acknowledgement came in. -/
def Deed.isAck : Deed → Bool
  | .acked _ => true
  | _ => false

/-- What a round wrote. -/
def Event.rewrites (e : Event) : List Write :=
  match e.deed with
  | .round _ => e.writes
  | _ => []

/-- The messages of the sends that were not refused, in order. -/
def messages (history : List Event) : List Message := history.filterMap (·.deed.message?)

/-- The message was sent, and since then neither acknowledged nor dropped. -/
def Waits (m : Message) (history : List Event) : Prop :=
  Since (fun e => e.deed = .sent m) (fun e => ¬ e.deed.Retires m.id) history

/-- A message waits after one more event if this is its sending, or if it waited before and the
    event does not end its waiting. -/
theorem waits_append_singleton {m : Message} {history : List Event} {e : Event} :
    Waits m (history ++ [e]) ↔ e.deed = .sent m ∨ Waits m history ∧ ¬ e.deed.Retires m.id := by
  simp only [Waits, since_append, since_singleton, List.mem_singleton, forall_eq]

/-- Only what was sent can wait. -/
theorem mem_messages_of_waits {m : Message} {history : List Event} (h : Waits m history) :
    m ∈ messages history := by
  obtain ⟨before, e, after, rfl, hsent, -⟩ := h
  refine List.mem_filterMap.2 ⟨e, by simp, ?_⟩
  rw [hsent]
  rfl

/-! ### The invariant -/

/-- The ledger stands for the history. -/
structure Faithful (history : List Event) (a : Ledger) : Prop where
  ids : (messages history).map (·.id) = List.range' 1 (messages history).length
  nextId : a.nextId = (messages history).length + 1
  /-- what waits, with its frame -/
  waiting : ∀ id frame, (id, frame) ∈ a.unanswered.snapshot ↔
    ∃ m : Message, m.id = id ∧ m.frame = frame ∧ Waits m history
  /-- a send that succeeds writes its frame once -/
  sent : ∀ e ∈ history, ∀ m, e.deed = .sent m →
    ∃ generation u, e.writes = [⟨generation, Utf8.encode m.frame, .ok u⟩]
  /-- frames are written by their own send, or by a round while they wait -/
  written : ∀ before e after, history = before ++ e :: after → ∀ w ∈ e.writes,
    ∃ m : Message, w.bytes = Utf8.encode m.frame ∧
      (e.deed.message? = some m ∨
        ∃ evicted, e.deed = .round evicted ∧ m.id ∉ evicted ∧ Waits m before)
  sends : a.counted.sent + a.counted.failed = (messages history).length
  acked : a.counted.acked = history.countP (·.deed.isAck)
  resent : a.counted.resent = (history.flatMap Event.rewrites).countP (·.isDone)

/-- An event adds the message that it sends, if it sends one. -/
theorem messages_append_singleton (history : List Event) (e : Event) :
    messages (history ++ [e]) = messages history ++ e.deed.message?.toList := by
  simp only [messages, List.filterMap_append]
  cases h : e.deed.message? <;> simp [h]

/-! ### One move -/

namespace Ledger.Move

variable {timeout : Nat} {a b : Ledger} {e : Event}

/-- Each message takes a number and is counted as sent or as failed. -/
theorem message? (h : Move timeout a e b) :
    (∀ m ∈ e.deed.message?, m.id = a.nextId) ∧
      b.nextId = a.nextId + e.deed.message?.toList.length ∧
      b.counted.sent + b.counted.failed =
        a.counted.sent + a.counted.failed + e.deed.message?.toList.length := by
  cases h with
  | refused | acked | round | other => exact ⟨by simp [Deed.message?], rfl, rfl⟩
  | sent now generation u hid =>
    refine ⟨by simpa [Deed.message?] using hid, rfl, ?_⟩
    simp only [TransportStats.countSent, Deed.message?, Option.toList_some, List.length_singleton]
    omega
  | failed now hid hws => exact ⟨by simpa [Deed.message?] using hid, rfl, rfl⟩

/-- Acknowledgements are counted one by one, for whatever message they are. -/
theorem acked_eq (h : Move timeout a e b) :
    b.counted.acked = a.counted.acked + [e].countP (·.deed.isAck) := by
  cases h <;> rfl

/-- Rewrites are counted if the connection took them. -/
theorem resent_eq (h : Move timeout a e b) :
    b.counted.resent = a.counted.resent + e.rewrites.countP (·.isDone) := by
  cases h <;> rfl

/-- A message that was sent was written once, and whole. -/
theorem sent_writes (h : Move timeout a e b) {m : Message} (he : e.deed = .sent m) :
    ∃ generation u, e.writes = [⟨generation, Utf8.encode m.frame, .ok u⟩] := by
  cases h with
  | sent now generation u hid =>
    cases he
    exact ⟨generation, u, rfl⟩
  | refused | failed | acked | round | other => cases he

end Ledger.Move

namespace Faithful

variable {timeout : Nat} {history : List Event} {a b : Ledger} {e : Event}

/-- The next number is larger than all numbers taken. -/
theorem id_lt (hf : Faithful history a) {m : Message} (hm : m ∈ messages history) :
    m.id < a.nextId := by
  have hmem : m.id ∈ (messages history).map (·.id) := List.mem_map_of_mem hm
  rw [hf.ids, List.mem_range'_1] at hmem
  rw [hf.nextId]
  omega

/-- What waits has a number below the next one. -/
theorem ne_of_mem_snapshot (hf : Faithful history a) {id : Nat} {frame : String}
    (h : (id, frame) ∈ a.unanswered.snapshot) : id ≠ a.nextId := by
  obtain ⟨m, rfl, -, hm⟩ := (hf.waiting id frame).1 h
  exact Nat.ne_of_lt (hf.id_lt (mem_messages_of_waits hm))

/-- An event that is no successful send can only end waits. -/
theorem waits_after (hf : Faithful history a) (hsent : ∀ m, e.deed ≠ .sent m) (id : Nat)
    (frame : String) :
    (∃ m : Message, m.id = id ∧ m.frame = frame ∧ Waits m (history ++ [e])) ↔
      ¬ e.deed.Retires id ∧ (id, frame) ∈ a.unanswered.snapshot := by
  rw [hf.waiting]
  constructor
  · rintro ⟨m, rfl, rfl, hm⟩
    rcases waits_append_singleton.1 hm with h | ⟨hm, hkeep⟩
    · exact absurd h (hsent m)
    · exact ⟨hkeep, m, rfl, rfl, hm⟩
  · rintro ⟨hkeep, m, rfl, rfl, hm⟩
    exact ⟨m, rfl, rfl, waits_append_singleton.2 (.inr ⟨hm, hkeep⟩)⟩

/-- After a move, what waits is again what the history says. -/
theorem waiting_move (hf : Faithful history a) (h : Ledger.Move timeout a e b) (id : Nat)
    (frame : String) : (id, frame) ∈ b.unanswered.snapshot ↔
      ∃ m : Message, m.id = id ∧ m.frame = frame ∧ Waits m (history ++ [e]) := by
  cases h with
  | refused | other =>
    rw [hf.waits_after (fun m => by simp)]
    simp [Deed.Retires]
  | acked i =>
    rw [hf.waits_after (fun m => by simp), PendingFrames.mem_snapshot_remove]
    simp only [Deed.Retires, ne_eq, eq_comm]
  | round now hws =>
    rw [hf.waits_after (fun m => by simp)]
    exact PendingFrames.mem_snapshot_evictExpired
  | @failed m now reason ws hid hws =>
    -- The number is new, so nothing else is forgotten.
    rw [hf.waits_after (fun m => by simp), PendingFrames.mem_snapshot_remove,
      PendingFrames.mem_snapshot_insert]
    have hnew : (id, frame) ∈ a.unanswered.snapshot → id ≠ m.id := fun h =>
      hid ▸ hf.ne_of_mem_snapshot h
    simp only [Deed.Retires]
    tauto
  | @sent m now generation u hid =>
    rw [PendingFrames.mem_snapshot_insert]
    constructor
    · rintro (⟨rfl, rfl⟩ | ⟨-, h⟩)
      · exact ⟨m, rfl, rfl, waits_append_singleton.2 (.inl rfl)⟩
      · obtain ⟨n, rfl, rfl, hn⟩ := (hf.waiting id frame).1 h
        exact ⟨n, rfl, rfl, waits_append_singleton.2 (.inr ⟨hn, by simp [Deed.Retires]⟩)⟩
    · rintro ⟨n, rfl, rfl, hn⟩
      rcases waits_append_singleton.1 hn with heq | ⟨hn, -⟩
      · cases heq
        exact .inl ⟨rfl, rfl⟩
      · have h := (hf.waiting n.id n.frame).2 ⟨n, rfl, rfl, hn⟩
        exact .inr ⟨hid ▸ hf.ne_of_mem_snapshot h, h⟩

/-- What an event writes is the frame of its own message, or that of one that waits. -/
theorem written_move (hf : Faithful history a) (h : Ledger.Move timeout a e b) {w : Write}
    (hw : w ∈ e.writes) : ∃ m : Message, w.bytes = Utf8.encode m.frame ∧
      (e.deed.message? = some m ∨
        ∃ evicted, e.deed = .round evicted ∧ m.id ∉ evicted ∧ Waits m history) := by
  cases h with
  | refused | acked | other => exact absurd hw List.not_mem_nil
  | @sent m now generation u hid =>
    rw [List.mem_singleton.1 hw]
    exact ⟨m, rfl, .inl rfl⟩
  | @failed m now reason ws hid hws => exact ⟨m, hws.bytes_eq hw, .inl rfl⟩
  | round now hws =>
    obtain ⟨⟨id, frame⟩, hp, hbytes⟩ :=
      List.mem_map.1 (hws.subset (List.mem_map_of_mem (f := (·.bytes)) hw))
    obtain ⟨hkept, hold⟩ := PendingFrames.mem_snapshot_evictExpired.1 hp
    obtain ⟨m, rfl, rfl, hm⟩ := (hf.waiting id frame).1 hold
    exact ⟨m, hbytes.symm, .inr ⟨_, rfl, hkept, hm⟩⟩

/-- **A move keeps the ledger faithful.** -/
theorem move (hf : Faithful history a) (h : Ledger.Move timeout a e b) :
    Faithful (history ++ [e]) b := by
  obtain ⟨hid, hnext, hsends⟩ := h.message?
  refine
    { ids := ?_
      nextId := ?_
      waiting := hf.waiting_move h
      sent := ?_
      written := ?_
      sends := ?_
      acked := ?_
      resent := ?_ }
  · rw [messages_append_singleton, List.map_append, hf.ids, List.length_append]
    cases hm : e.deed.message? with
    | none => simp
    | some m =>
      rw [hm] at hid
      -- The next number is one more than the messages so far.
      have hlast : m.id = 1 + 1 * (messages history).length := by
        rw [hid m rfl, hf.nextId]
        omega
      simp [List.range'_concat, hlast]
  · rw [hnext, hf.nextId, messages_append_singleton, List.length_append]
    omega
  · intro x hx m hm
    rcases List.mem_append.1 hx with hx | hx
    · exact hf.sent x hx m hm
    · rw [List.mem_singleton.1 hx] at hm ⊢
      exact h.sent_writes hm
  · -- Either this is the last event, or its past has not changed.
    intro before x after hsplit w hw
    rcases List.eq_nil_or_concat' after with rfl | ⟨after, y, rfl⟩
    · obtain ⟨rfl, heq⟩ := List.append_inj' hsplit rfl
      rw [← (List.cons.inj heq).1] at hw ⊢
      exact hf.written_move h hw
    · rw [← List.cons_append, ← List.append_assoc] at hsplit
      exact hf.written before x after (List.append_inj' hsplit rfl).1 w hw
  · rw [hsends, hf.sends, messages_append_singleton, List.length_append]
  · rw [h.acked_eq, hf.acked, List.countP_append]
  · rw [h.resent_eq, hf.resent, List.flatMap_append, List.countP_append, List.flatMap_singleton]

/-- Messages of different sends have different numbers. -/
theorem id_ne {xs ys : List Event} (hf : Faithful (xs ++ ys) a) {m n : Message}
    (hm : m ∈ messages xs) (hn : n ∈ messages ys) : m.id ≠ n.id := by
  have hnodup : ((messages (xs ++ ys)).map (·.id)).Nodup := hf.ids ▸ List.nodup_range'
  rw [messages, List.filterMap_append, List.map_append] at hnodup
  exact (List.nodup_append.1 hnodup).2.2 _ (List.mem_map_of_mem hm) _ (List.mem_map_of_mem hn)

/-- Once a message was acknowledged, dropped or given up, nothing writes a frame of its
    number. -/
theorem not_written_after {before after : List Event} (hf : Faithful (before ++ e :: after) a)
    {m : Message} (hm : m ∈ messages (before ++ [e]))
    (hend : e.deed = .failed m ∨ e.deed.Retires m.id) {x : Event} (hx : x ∈ after) {w : Write}
    (hw : w ∈ x.writes) {n : Message} (hn : n.id = m.id) : w.bytes ≠ Utf8.encode n.frame := by
  intro hbytes
  obtain ⟨mid, rest, rfl⟩ := List.append_of_mem hx
  have hwhole : before ++ e :: (mid ++ x :: rest) = (before ++ [e]) ++ (mid ++ x :: rest) := by
    simp
  have hlater : n ∉ messages (mid ++ x :: rest) := fun hmem =>
    (hwhole ▸ hf).id_ne hm hmem hn.symm
  -- A frame is written by its own send, or while its message waits.
  obtain ⟨k, hk, hcase⟩ := hf.written (before ++ [e] ++ mid) x rest (by simp) w hw
  obtain rfl : n = k := Message.encode_frame_inj (hbytes.symm.trans hk)
  rcases hcase with hown | ⟨evicted, -, -, hwaits⟩
  · exact hlater (List.mem_filterMap.2 ⟨x, by simp, hown⟩)
  · rcases since_append.1 hwaits with hmid | ⟨hwaits, -⟩
    · exact hlater (by
        rw [messages, List.filterMap_append]
        exact List.mem_append_left _ (mem_messages_of_waits hmid))
    · -- It was sent before, and the event has ended its wait.
      rcases waits_append_singleton.1 hwaits with hsent | ⟨hwaits, hkeep⟩
      · rw [hsent] at hend
        simp [Deed.Retires] at hend
      · rcases hend with hfailed | hretires
        · have hmem : m ∈ messages (e :: (mid ++ x :: rest)) :=
            List.mem_filterMap.2 ⟨e, by simp, by rw [hfailed]; rfl⟩
          exact hf.id_ne (mem_messages_of_waits hwaits) hmem hn
        · exact hkeep (hn ▸ hretires)

end Faithful

/-! ### Runs -/

variable {ω : Type} [Endpoint ω]

/-- No step changes the settings of a link that awaits acknowledgements. -/
theorem settings_run {l : Link ω} {timeout : Nat} (h : l.settings.ackTimeout = some timeout)
    (steps : List (Step ω)) : (l.run steps).settings = l.settings := by
  induction steps using List.reverseRecOn with
  | nil => rfl
  | append_singleton steps s ih =>
    rw [run_append_singleton, ← ih]
    exact (move_take (ih ▸ h) s).settings_eq

/-- No step changes the timeout. -/
theorem ackTimeout_run {l : Link ω} {timeout : Nat} (h : l.settings.ackTimeout = some timeout)
    (steps : List (Step ω)) : (l.run steps).settings.ackTimeout = some timeout := by
  rw [settings_run h steps, h]

/-- **A ledger stays faithful,** whatever steps are taken. -/
theorem faithful_run {l : Link ω} {timeout : Nat} (h : l.settings.ackTimeout = some timeout)
    (hstart : Faithful [] l.ledger) (steps : List (Step ω)) :
    Faithful (l.history steps) (l.run steps).ledger := by
  induction steps using List.reverseRecOn with
  | nil => exact hstart
  | append_singleton steps s ih =>
    rw [history_append_singleton, run_append_singleton]
    exact ih.move (move_take (ackTimeout_run h steps) s)

omit [Endpoint ω] in
/-- The ledger of a new link stands for no history. -/
theorem faithful_start (world : ω) (settings : Settings) :
    Faithful [] (ledger { world := world, settings := settings }) := by
  have hnever : ∀ m, ¬ Waits m [] := fun m hm => absurd (mem_messages_of_waits hm) List.not_mem_nil
  exact
    { ids := rfl
      nextId := rfl
      waiting := fun id frame => by
        simp [hnever, ledger, PendingFrames.snapshot, PendingFrames.empty]
      sent := fun e he => absurd he List.not_mem_nil
      written := fun before e after h => by simp at h
      sends := rfl
      acked := rfl
      resent := rfl }

/-- **Delivery.** Let a new link await acknowledgements, and let anything happen to it in any
    order: sends, lines of the receiver, rounds of sending again, ends of connections, closing,
    and whatever the surroundings do.

    The sends that are not refused take the numbers 1, 2, 3, …, those that fail included.  What
    waits is exactly, each with its own frame, the messages that were sent and since then neither
    acknowledged, with whatever status, nor dropped by a round.  No frame of a number is written
    after its message was acknowledged, dropped, or given up by its send, nor in the round that
    drops it.  The counters stand for the sends, the acknowledgements and the frames that were
    written again. -/
theorem run_start (world : ω) (settings : Settings) (timeout : Nat) (steps : List (Step ω)) :
    let start : Link ω :=
      { world := world, settings := { settings with ackTimeout := some timeout } }
    let history := start.history steps
    let l := start.run steps
    (messages history).map (·.id) = List.range' 1 (messages history).length ∧
    (∀ e ∈ history, ∀ m, e.deed = .sent m →
      ∃ generation u, e.writes = [⟨generation, Utf8.encode m.frame, .ok u⟩]) ∧
    (∀ id frame, (id, frame) ∈ l.unanswered.snapshot ↔
      ∃ m : Message, m.id = id ∧ m.frame = frame ∧ Waits m history) ∧
    (∀ before e after, history = before ++ e :: after → ∀ m ∈ messages (before ++ [e]),
      e.deed = .failed m ∨ e.deed.Retires m.id → ∀ x ∈ after, ∀ w ∈ x.writes,
        ∀ n : Message, n.id = m.id → w.bytes ≠ Utf8.encode n.frame) ∧
    (∀ e ∈ history, ∀ evicted, e.deed = .round evicted → ∀ w ∈ e.writes,
      ∀ n : Message, n.id ∈ evicted → w.bytes ≠ Utf8.encode n.frame) ∧
    l.counted.sent + l.counted.failed = (messages history).length ∧
    l.counted.acked = history.countP (·.deed.isAck) ∧
    l.counted.resent = (history.flatMap Event.rewrites).countP (·.isDone) := by
  intro start history l
  have hf : Faithful history l.ledger := faithful_run rfl (faithful_start _ _) steps
  refine ⟨hf.ids, hf.sent, hf.waiting, ?_, ?_, hf.sends, hf.acked, hf.resent⟩
  · intro before e after hsplit m hm hend x hx w hw n hn
    exact (hsplit ▸ hf).not_written_after hm hend hx hw hn
  · -- A round writes again what it has not evicted.
    intro e he evicted hround w hw n hn hbytes
    obtain ⟨before, after, hsplit⟩ := List.append_of_mem he
    obtain ⟨k, hk, hcase⟩ := hf.written before e after hsplit w hw
    obtain rfl : n = k := Message.encode_frame_inj (hbytes.symm.trans hk)
    rw [hround] at hcase
    rcases hcase with hown | ⟨evicted', heq, hkept, -⟩
    · simp [Deed.message?] at hown
    · cases heq
      exact hkept hn

end Link

end Telemetry
