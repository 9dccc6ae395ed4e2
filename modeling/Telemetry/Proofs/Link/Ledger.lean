import Telemetry.Proofs.Link.Recording

namespace Telemetry

/-!
# The ledger of a link

What a link knows of its messages changes in few ways, whatever its surroundings do.

* `Link.Ledger`, `Link.ledger_writeFrame` — connecting and writing leave the ledger alone.
* `Link.writes_writeFrame`, `writes_writeAgain` — what is written for one frame, and in a round.
* `Link.Ledger.Move` — the ways in which an event can change the ledger of a link that awaits
  acknowledgements.
* `Link.move_take` — each step makes such a move.
-/

namespace Link

variable {ω : Type} [Endpoint ω]

/-! ### What connecting and writing leave alone -/

/-- What a link knows of its messages. -/
structure Ledger where
  settings : Settings
  unanswered : PendingFrames
  counted : TransportStats
  nextId : Nat

/-- More frames were written again. -/
def Ledger.addResent (a : Ledger) (n : Nat) : Ledger :=
  { a with counted := { a.counted with resent := a.counted.resent + n } }

/-- Counts of rewrites add up. -/
theorem Ledger.addResent_addResent (a : Ledger) (m n : Nat) :
    (a.addResent m).addResent n = a.addResent (n + m) := by
  simp only [addResent, Nat.add_assoc, Nat.add_comm m n]

/-- The ledger of a link. -/
def ledger (l : Link ω) : Ledger := ⟨l.settings, l.unanswered, l.counted, l.nextId⟩

/-- What no attempt and no wait changes, connecting does not change. -/
theorem ensureConnected_preserves {α : Type} {f : Link ω → α}
    (hattempt : ∀ l : Link ω, f l.attempt.2 = f l)
    (hpause : ∀ (l : Link ω) delay, f { l with world := Endpoint.pause l.world delay } = f l)
    (l : Link ω) : f l.ensureConnected.2 = f l := by
  have hwithin : ∀ (budget start waited : Nat) (l : Link ω),
      f (connectWithin budget start waited l).2 = f l := by
    intro budget start waited l
    fun_induction connectWithin budget start waited l with
    | case1 waited l generation l' hok =>
      rw [← hattempt l, hok]
    | case2 waited l reason l' herror elapsed hstop =>
      rw [← hattempt l, herror]
    | case3 waited l reason l' herror elapsed hstop delay ih =>
      rw [ih, hpause, ← hattempt l, herror]
  unfold ensureConnected
  split
  · rfl
  · split
    · rfl
    · exact hwithin _ _ _ l

/-- Connecting touches no message. -/
theorem ledger_attempt (l : Link ω) : l.attempt.2.ledger = l.ledger := by
  simp only [attempt]
  split <;> rfl

theorem ledger_dropConnection (l : Link ω) (generation : Nat) :
    (l.dropConnection generation).ledger = l.ledger := by
  unfold dropConnection
  split <;> rfl

/-- **Writing a frame leaves the ledger alone,** whatever becomes of it. -/
theorem ledger_writeFrame (l : Link ω) (frame : String) :
    (l.writeFrame frame).2.ledger = l.ledger := by
  rw [← ensureConnected_preserves ledger_attempt (fun _ _ => rfl) l, writeFrame]
  rcases l.ensureConnected with ⟨_ | generation, l'⟩
  · rfl
  · simp only
    rcases Endpoint.write l'.world generation (Utf8.encode frame) with ⟨_ | _, world⟩
    · exact ledger_dropConnection { l' with world := world } generation
    · rfl

/-- What waits for its acknowledgement is kept when the link stops. -/
theorem ledger_stop (l : Link ω) : l.stop.ledger = l.ledger := by
  cases h : l.connection with
  | none =>
    rw [stop_of_none h]
    rfl
  | some generation =>
    rw [stop_of_some h, ledger_dropConnection]
    rfl

/-- Where acknowledgements are awaited, a message is remembered before it is written. -/
theorem ledger_prepared {l : Link ω} (h : l.settings.ackTimeout.isSome = true) (m : Message) :
    (l.prepared m).ledger =
      { l.ledger with
        unanswered := l.unanswered.insert m.id m.frame (Endpoint.now l.world)
        nextId := l.nextId + 1 } := by
  unfold prepared remember startRounds
  split <;> exact congrArg ledger (if_pos h)

/-! ### What is written -/

/-- The writes of one frame: one that the connection took, or one that failed, or none for
    want of a connection. -/
inductive WritesOnce (frame : String) : Except String Unit → List Write → Prop
  | done (generation : Nat) (u : Unit) :
    WritesOnce frame (.ok u) [⟨generation, Utf8.encode frame, .ok u⟩]
  | broken (generation : Nat) (reason : String) :
    WritesOnce frame (.error reason) [⟨generation, Utf8.encode frame, .error reason⟩]
  | unconnected (reason : String) : WritesOnce frame (.error reason) []

/-- Nothing but the frame is written. -/
theorem WritesOnce.bytes_eq {frame : String} {answer : Except String Unit} {ws : List Write}
    (h : WritesOnce frame answer ws) {w : Write} (hw : w ∈ ws) : w.bytes = Utf8.encode frame := by
  cases h with
  | done | broken => rw [List.mem_singleton.1 hw]
  | unconnected => exact absurd hw List.not_mem_nil

/-- Connecting writes nothing. -/
theorem writes_attempt (l : Link (Recorded ω)) : l.attempt.2.world.writes = l.world.writes := by
  have hconnect : (Endpoint.connect l.world l.settings.socketPath (l.generation + 1)).2.writes =
      l.world.writes := rfl
  simp only [attempt]
  rcases h : Endpoint.connect l.world l.settings.socketPath (l.generation + 1) with
    ⟨_ | _, world⟩ <;> rw [h] at hconnect <;> exact hconnect

theorem writes_dropConnection (l : Link (Recorded ω)) (generation : Nat) :
    (l.dropConnection generation).world.writes = l.world.writes := by
  unfold dropConnection
  split <;> rfl

theorem writes_stop (l : Link (Recorded ω)) : l.stop.world.writes = l.world.writes := by
  cases h : l.connection with
  | none => rw [stop_of_none h]
  | some generation => rw [stop_of_some h, writes_dropConnection]

/-- A message is prepared without a write. -/
theorem writes_prepared (l : Link (Recorded ω)) (m : Message) :
    (l.prepared m).world.writes = l.world.writes := by
  unfold prepared remember startRounds
  split <;> split <;> rfl

/-- **Writing a frame writes it once or not at all,** and nothing else. -/
theorem writes_writeFrame (l : Link (Recorded ω)) (frame : String) :
    ∃ ws, (l.writeFrame frame).2.world.writes = l.world.writes ++ ws ∧
      WritesOnce frame (l.writeFrame frame).1 ws := by
  have hconnected := ensureConnected_preserves (f := fun l => l.world.writes) writes_attempt
    (fun _ _ => rfl) l
  rw [writeFrame, ← hconnected]
  rcases l.ensureConnected with ⟨reason | generation, l'⟩
  · exact ⟨[], (List.append_nil _).symm, .unconnected reason⟩
  · have hwrite : (Endpoint.write l'.world generation (Utf8.encode frame)).2.writes =
        l'.world.writes ++ [⟨generation, Utf8.encode frame,
          (Endpoint.write l'.world generation (Utf8.encode frame)).1⟩] := rfl
    simp only
    rcases h : Endpoint.write l'.world generation (Utf8.encode frame) with ⟨reason | u, world⟩
    · rw [h] at hwrite
      exact ⟨_, (writes_dropConnection { l' with world := world } generation).trans hwrite,
        .broken generation reason⟩
    · rw [h] at hwrite
      exact ⟨_, hwrite, .done generation u⟩

/-- Frames are written again in their order, each at most once, and those that were taken are
    counted. -/
theorem writes_writeAgain (frames : List (Nat × String)) (l : Link (Recorded ω)) :
    ∃ ws, (writeAgain frames l).world.writes = l.world.writes ++ ws ∧
      (ws.map (·.bytes)).Sublist (frames.map fun p => Utf8.encode p.2) ∧
      (writeAgain frames l).ledger = l.ledger.addResent (ws.countP (·.isDone)) := by
  induction frames generalizing l with
  | nil => exact ⟨[], (List.append_nil _).symm, .slnil, rfl⟩
  | cons p frames ih =>
    obtain ⟨id, frame⟩ := p
    rw [writeAgain]
    split
    · obtain ⟨ws, hws, honce⟩ := writes_writeFrame l frame
      have hledger := ledger_writeFrame l frame
      rcases hwrite : l.writeFrame frame with ⟨answer, l'⟩
      rw [hwrite] at hws honce hledger
      cases honce with
      | done generation u =>
        obtain ⟨ws', hws', hsub, hrest⟩ := ih { l' with counted := l'.counted.countResent }
        have hcounted : ledger { l' with counted := l'.counted.countResent } =
            l.ledger.addResent 1 := congrArg (·.addResent 1) hledger
        refine ⟨⟨generation, Utf8.encode frame, .ok u⟩ :: ws', ?_, hsub.cons_cons _, ?_⟩
        · exact hws'.trans (by rw [hws, List.append_assoc, List.singleton_append])
        · rw [List.countP_cons_of_pos rfl]
          exact hrest.trans (by rw [hcounted, Ledger.addResent_addResent])
      | broken generation reason =>
        exact ⟨_, hws, (List.nil_sublist _).cons_cons _, hledger⟩
      | unconnected reason => exact ⟨_, hws, List.nil_sublist _, hledger⟩
    · -- What does not wait any longer is passed over.
      obtain ⟨ws, hws, hsub, hledger⟩ := ih l
      exact ⟨ws, hws, hsub.cons _, hledger⟩

/-! ### Moves -/

/-- The ways in which an event changes the ledger of a link whose acknowledgements are awaited
    for `timeout`. -/
inductive Ledger.Move (timeout : Nat) : Ledger → Event → Ledger → Prop
  | refused (a : Ledger) : Move timeout a ⟨.refused, []⟩ a
  /-- a message takes the next number, is remembered, and its frame is written -/
  | sent (a : Ledger) {m : Message} (now generation : Nat) (u : Unit) (hid : m.id = a.nextId) :
    Move timeout a ⟨.sent m, [⟨generation, Utf8.encode m.frame, .ok u⟩]⟩
      { a with
        unanswered := a.unanswered.insert m.id m.frame now
        counted := a.counted.countSent
        nextId := a.nextId + 1 }
  /-- a message takes the next number and is forgotten again -/
  | failed (a : Ledger) {m : Message} (now : Nat) {reason : String} {ws : List Write}
      (hid : m.id = a.nextId) (hws : WritesOnce m.frame (.error reason) ws) :
    Move timeout a ⟨.failed m, ws⟩
      { a with
        unanswered := ((a.unanswered.insert m.id m.frame now).remove m.id).2
        counted := a.counted.countFailed
        nextId := a.nextId + 1 }
  | acked (a : Ledger) (id : Nat) :
    Move timeout a ⟨.acked id, []⟩
      { a with
        unanswered := (a.unanswered.remove id).2
        counted := a.counted.countAcked }
  /-- old frames are dropped, and of the others some are written again in order -/
  | round (a : Ledger) (now : Nat) {ws : List Write}
      (hws : (ws.map (·.bytes)).Sublist
        ((a.unanswered.evictExpired timeout now).2.snapshot.map fun p => Utf8.encode p.2)) :
    Move timeout a ⟨.round (a.unanswered.evictExpired timeout now).1, ws⟩
      (Ledger.addResent { a with unanswered := (a.unanswered.evictExpired timeout now).2 }
        (ws.countP (·.isDone)))
  | other (a : Ledger) : Move timeout a ⟨.other, []⟩ a

/-- The move of a send. -/
theorem move_send {l : Link (Recorded ω)} {timeout : Nat}
    (h : l.settings.ackTimeout = some timeout) (hlog : l.world.writes = [])
    (source payload : String) :
    Ledger.Move timeout l.ledger
      ⟨l.deed (.send source payload), (l.send source payload).2.world.writes⟩
      (l.send source payload).2.ledger := by
  by_cases hstopped : l.isStopped = true
  · rw [deed, send_of_isStopped hstopped, hlog]
    exact .refused _
  · rw [deed, send_of_isOpen hstopped]
    generalize hm : (⟨source, l.nextId, payload⟩ : Message) = m
    have hid : m.id = l.nextId := by rw [← hm]
    have hprepared := ledger_prepared (by rw [h]; rfl) m
    obtain ⟨ws, hws, honce⟩ := writes_writeFrame (l.prepared m) m.frame
    have hledger := (ledger_writeFrame (l.prepared m) m.frame).trans hprepared
    rw [writes_prepared, hlog, List.nil_append] at hws
    -- The answer of the write tells which move this is.
    rcases hwrite : (l.prepared m).writeFrame m.frame with ⟨reason | u, l'⟩
    · rw [hwrite] at hws honce hledger
      have hafter : ledger { l'.forget l.nextId with counted := l'.counted.countFailed } =
          { l'.ledger with
            unanswered := (l'.ledger.unanswered.remove m.id).2
            counted := l'.ledger.counted.countFailed } := by
        rw [hid]
        rfl
      rw [hledger] at hafter
      have hmove : Ledger.Move timeout l.ledger ⟨.failed m, ws⟩ _ :=
        .failed l.ledger (Endpoint.now l.world) hid honce
      rw [← hws] at hmove
      exact hafter ▸ hmove
    · rw [hwrite] at hws honce hledger
      have hafter : ledger { l' with counted := l'.counted.countSent } =
          { l'.ledger with counted := l'.ledger.counted.countSent } := rfl
      rw [hledger] at hafter
      cases honce with
      | done generation =>
        have hmove : Ledger.Move timeout l.ledger ⟨.sent m, _⟩ _ :=
          .sent l.ledger (Endpoint.now l.world) generation u hid
        rw [← hws] at hmove
        exact hafter ▸ hmove

/-- The move of a round. -/
theorem move_round {l : Link (Recorded ω)} {timeout : Nat}
    (h : l.settings.ackTimeout = some timeout) (hlog : l.world.writes = []) :
    Ledger.Move timeout l.ledger ⟨l.deed .round, l.resendRound.world.writes⟩
      l.resendRound.ledger := by
  obtain ⟨ws, hws, hsub, hledger⟩ :=
    writes_writeAgain (l.kept timeout).snapshot { l with unanswered := l.kept timeout }
  rw [← resendRound_of_some h] at hws hledger
  have hdeed : l.deed .round =
      .round (l.unanswered.evictExpired timeout (Endpoint.now l.world)).1 := by
    simp only [deed, h]
  rw [hdeed, hws, hledger, hlog, List.nil_append]
  exact .round l.ledger (Endpoint.now l.world) hsub

/-- **Each step makes a move,** whatever becomes of its connections and its writes. -/
theorem move_take {l : Link ω} {timeout : Nat} (h : l.settings.ackTimeout = some timeout)
    (s : Step ω) : Ledger.Move timeout l.ledger (l.event s) (l.take s).ledger := by
  have hledger : (l.take s).ledger = (l.recorded.take s.recorded).ledger :=
    congrArg ledger (bare_take l s).symm
  rw [event, ← deed_recorded, hledger]
  cases s with
  | send source payload => exact move_send (l := l.recorded) h rfl source payload
  | ack line =>
    simp only [Step.recorded, deed, take]
    cases hparse : Ack.parse? line with
    | none =>
      rw [handleAckLine_of_none hparse]
      exact .other _
    | some ack =>
      rw [handleAckLine_of_some hparse]
      exact .acked _ _
  | round => exact move_round (l := l.recorded) h rfl
  | drop generation =>
    simp only [Step.recorded, deed, take, ledger_dropConnection, writes_dropConnection]
    exact .other _
  | close =>
    simp only [Step.recorded, deed, take, close, ledger_stop, writes_stop]
    exact .other _
  | elsewhere world => exact .other _

/-- No move changes the settings. -/
theorem Ledger.Move.settings_eq {timeout : Nat} {a b : Ledger} {e : Event}
    (h : Move timeout a e b) : b.settings = a.settings := by
  cases h <;> rfl

end Link

end Telemetry
