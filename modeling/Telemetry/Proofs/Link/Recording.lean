import Telemetry.Link

namespace Telemetry

/-!
# Steps of a link

What can happen to a link, one step at a time, with what each step writes.  The writes are
seen by surroundings that note them and are otherwise the given ones.

* `Recorded` — surroundings with a log of the writes.
* `Link.Step`, `Link.take`, `Link.run` — one step, and steps one after the other; between
  steps the surroundings may become anything.
* `Link.Mirrors.connectWithRetry` — connecting is the same in surroundings that mirror others.
* `Link.bare_take` — the log changes nothing.
* `Link.Deed`, `Link.Event`, `Link.history` — what a step came to, and what it wrote.
-/

/-! ### Surroundings with a log -/

/-- One write to a connection, with its outcome. -/
structure Write where
  generation : Nat
  bytes : List UInt8
  outcome : Except String Unit

namespace Write

/-- The connection took the bytes. -/
def isDone (w : Write) : Bool := w.outcome matches .ok _

end Write

/-- Surroundings, and the writes so far. -/
structure Recorded (ω : Type) where
  inner : ω
  writes : List Write

instance {ω : Type} [Endpoint ω] : Endpoint (Recorded ω) where
  now r := Endpoint.now r.inner
  pause r delay := ⟨Endpoint.pause r.inner delay, r.writes⟩
  connect r path generation :=
    let (answer, inner) := Endpoint.connect r.inner path generation
    (answer, ⟨inner, r.writes⟩)
  write r generation bytes :=
    let (outcome, inner) := Endpoint.write r.inner generation bytes
    (outcome, ⟨inner, r.writes ++ [⟨generation, bytes, outcome⟩]⟩)
  shutdown r generation := ⟨Endpoint.shutdown r.inner generation, r.writes⟩

namespace Link

/-- The link in other surroundings. -/
def inWorld {ω ω' : Type} (l : Link ω) (world : ω') : Link ω' where
  world := world
  settings := l.settings
  connection := l.connection
  isStopped := l.isStopped
  unanswered := l.unanswered
  incoming := l.incoming
  counted := l.counted
  generation := l.generation
  attempts := l.attempts
  nextId := l.nextId
  resendAt := l.resendAt

/-- The link in the same surroundings, with an empty log. -/
def recorded {ω : Type} (l : Link ω) : Link (Recorded ω) := l.inWorld ⟨l.world, []⟩

/-- The link without the log. -/
def bare {ω : Type} (l : Link (Recorded ω)) : Link ω := l.inWorld l.world.inner

variable {ω : Type} [Endpoint ω]

/-! ### Steps -/

/-- What can happen to a link. -/
inductive Step (ω : Type) where
  | send (source payload : String)
  /-- a line of the receiver comes in -/
  | ack (line : String)
  /-- frames that wait are written again -/
  | round
  /-- the end of a connection is noticed -/
  | drop (generation : Nat)
  | close
  /-- time goes by, or the other side does something -/
  | elsewhere (world : ω)

/-- The step in surroundings with an empty log. -/
def Step.recorded : Step ω → Step (Recorded ω)
  | send source payload => send source payload
  | ack line => ack line
  | round => round
  | drop generation => drop generation
  | close => close
  | elsewhere world => elsewhere ⟨world, []⟩

/-- One step. -/
def take (l : Link ω) : Step ω → Link ω
  | .send source payload => (l.send source payload).2
  | .ack line => l.handleAckLine line
  | .round => l.resendRound
  | .drop generation => l.dropConnection generation
  | .close => l.close.2
  | .elsewhere world => { l with world := world }

/-- Steps one after the other. -/
def run (l : Link ω) (steps : List (Step ω)) : Link ω := steps.foldl take l

/-! ### Histories -/

/-- What a step came to. -/
inductive Deed where
  /-- a send on a closed link -/
  | refused
  | sent (m : Message)
  | failed (m : Message)
  /-- an acknowledgement of any status -/
  | acked (id : Nat)
  /-- a round that dropped the frames of these numbers -/
  | round (evicted : List Nat)
  /-- a line that is no acknowledgement, or nothing that concerns messages -/
  | other

/-- What a step comes to.  A send that is not refused is that of a message. -/
def deed (l : Link ω) : Step ω → Deed
  | .send source payload =>
    match (l.send source payload).1 with
    | .ok _ => .sent ⟨source, l.nextId, payload⟩
    | .error .closed => .refused
    | .error _ => .failed ⟨source, l.nextId, payload⟩
  | .ack line =>
    match Ack.parse? line with
    | some ack => .acked ack.id
    | none => .other
  | .round =>
    match l.settings.ackTimeout with
    | some timeout => .round (l.unanswered.evictExpired timeout (Endpoint.now l.world)).1
    | none => .other
  | _ => .other

/-- What a step came to, and what it wrote, in order. -/
structure Event where
  deed : Deed
  writes : List Write

/-- The event of a step. -/
def event (l : Link ω) (s : Step ω) : Event :=
  ⟨l.deed s, (l.recorded.take s.recorded).world.writes⟩

/-- The events of steps one after the other. -/
def history (l : Link ω) : List (Step ω) → List Event
  | [] => []
  | s :: steps => l.event s :: (l.take s).history steps

theorem run_append_singleton (l : Link ω) (steps : List (Step ω)) (s : Step ω) :
    l.run (steps ++ [s]) = (l.run steps).take s := by
  simp [run]

theorem history_append_singleton (l : Link ω) (steps : List (Step ω)) (s : Step ω) :
    l.history (steps ++ [s]) = l.history steps ++ [(l.run steps).event s] := by
  induction steps generalizing l with
  | nil => rfl
  | cons t steps ih =>
    rw [List.cons_append, history, ih]
    rfl

/-! ### Equations -/

/-- The link that is about to write a message for the first time. -/
def prepared (l : Link ω) (m : Message) : Link ω :=
  remember { l.startRounds with nextId := l.nextId + 1 } m.id m.frame

/-- A stopped link refuses to send, and stays as it is. -/
theorem send_of_isStopped {l : Link ω} (h : l.isStopped = true) (source payload : String) :
    l.send source payload = (.error .closed, l) := by
  rw [send, if_pos h]

/-- An open link sends what is written of its next message, and forgets it if that fails. -/
theorem send_of_isOpen {l : Link ω} (h : ¬ l.isStopped = true) (source payload : String) :
    l.send source payload =
      match (l.prepared ⟨source, l.nextId, payload⟩).writeFrame
          (⟨source, l.nextId, payload⟩ : Message).frame with
      | (.ok _, l) => (.ok (), { l with counted := l.counted.countSent })
      | (.error reason, l') =>
        (.error (.sendFailed source reason),
          { l'.forget l.nextId with counted := l'.counted.countFailed }) := by
  rw [send, if_neg h]
  rfl

/-- What waits after a round has dropped what waited too long. -/
def kept (l : Link ω) (timeout : Nat) : PendingFrames :=
  (l.unanswered.evictExpired timeout (Endpoint.now l.world)).2

/-- Without acknowledgements nothing is sent again. -/
theorem resendRound_of_none {l : Link ω} (h : l.settings.ackTimeout = none) :
    l.resendRound = l := by
  simp only [resendRound, h]

/-- A round drops what is too old, and then writes what is left. -/
theorem resendRound_of_some {l : Link ω} {timeout : Nat}
    (h : l.settings.ackTimeout = some timeout) :
    l.resendRound =
      writeAgain (l.kept timeout).snapshot { l with unanswered := l.kept timeout } := by
  simp only [resendRound, h, kept]

omit [Endpoint ω] in
theorem handleAckLine_of_none {l : Link ω} {line : String} (h : Ack.parse? line = none) :
    l.handleAckLine line = l := by
  simp only [handleAckLine, h]

omit [Endpoint ω] in
theorem handleAckLine_of_some {l : Link ω} {line : String} {ack : Ack}
    (h : Ack.parse? line = some ack) :
    l.handleAckLine line = { l.forget ack.id with counted := l.counted.countAcked } := by
  simp only [handleAckLine, h]

theorem stop_of_none {l : Link ω} (h : l.connection = none) :
    l.stop = { l with isStopped := true, resendAt := none } := by
  simp only [stop, h]

theorem stop_of_some {l : Link ω} {generation : Nat} (h : l.connection = some generation) :
    l.stop = dropConnection { l with isStopped := true, resendAt := none } generation := by
  simp only [stop, h]

/-! ### The connection after connecting -/

/-- An attempt leaves the link with the connection that it answers. -/
theorem connection_attempt {l : Link ω} (h : l.connection = none) :
    l.attempt.2.connection = l.attempt.1.toOption := by
  simp only [attempt]
  rcases Endpoint.connect l.world l.settings.socketPath (l.generation + 1) with ⟨_ | _, world⟩
  · exact h
  · rfl

theorem connection_connectWithin (budget start waited : Nat) {l : Link ω}
    (h : l.connection = none) :
    (l.connectWithin budget start waited).2.connection =
      (l.connectWithin budget start waited).1.toOption := by
  -- The last attempt decides; those before it failed and left no connection.
  fun_induction connectWithin budget start waited l with
  | case1 waited l generation l' hattempt =>
    have hconnection := connection_attempt h
    rwa [hattempt] at hconnection
  | case2 waited l reason l' hattempt elapsed hstop =>
    have hconnection := connection_attempt h
    rwa [hattempt] at hconnection
  | case3 waited l reason l' hattempt elapsed hstop delay ih =>
    have hconnection := connection_attempt h
    rw [hattempt] at hconnection
    exact ih hconnection

/-- After connecting there is a connection exactly if the answer is one. -/
theorem connection_ensureConnected (l : Link ω) :
    l.ensureConnected.2.connection = l.ensureConnected.1.toOption := by
  unfold ensureConnected
  cases h : l.connection with
  | some generation => exact h
  | none =>
    simp only
    split
    · exact h
    · exact connection_connectWithin _ _ _ h

/-! ### Connecting in surroundings seen through a function -/

/-- The link in its surroundings as `f` shows them. -/
def through {ω' : Type} (f : ω' → ω) (l : Link ω') : Link ω := l.inWorld (f l.world)

/-- What `f` shows of surroundings tells the same time as they do, and waits and connects as they
    do. -/
structure Mirrors {ω' : Type} [Endpoint ω'] (f : ω' → ω) : Prop where
  now : ∀ world, Endpoint.now (f world) = Endpoint.now world
  pause : ∀ world delay, Endpoint.pause (f world) delay = f (Endpoint.pause world delay)
  connect : ∀ world path generation, Endpoint.connect (f world) path generation =
    ((Endpoint.connect world path generation).1, f (Endpoint.connect world path generation).2)

section Mirrors

variable {ω' : Type} [Endpoint ω'] {f : ω' → ω}

/-- An attempt goes the same way in both surroundings. -/
theorem Mirrors.attempt (hf : Mirrors f) (l : Link ω') :
    (l.through f).attempt = (l.attempt.1, l.attempt.2.through f) := by
  have hconnect : Endpoint.connect (l.through f).world (l.through f).settings.socketPath
      ((l.through f).generation + 1) = _ :=
    hf.connect l.world l.settings.socketPath (l.generation + 1)
  rw [Link.attempt, Link.attempt, hconnect]
  rcases Endpoint.connect l.world l.settings.socketPath (l.generation + 1) with ⟨_ | _, world⟩ <;>
    rfl

/-- **Connecting comes to the same** in what `f` shows of the surroundings. -/
theorem Mirrors.connectWithin (hf : Mirrors f) (budget start waited : Nat) (l : Link ω') :
    (l.through f).connectWithin budget start waited =
      ((l.connectWithin budget start waited).1,
        (l.connectWithin budget start waited).2.through f) := by
  fun_induction Link.connectWithin budget start waited l with
  | case1 waited l generation l' hattempt =>
    rw [Link.connectWithin, hf.attempt, hattempt]
  | case2 waited l reason l' hattempt elapsed hstop =>
    have hnow : Endpoint.now (l'.through f).world = Endpoint.now l'.world := hf.now l'.world
    rw [Link.connectWithin, hf.attempt, hattempt]
    simp only [hnow]
    exact if_pos hstop
  | case3 waited l reason l' hattempt elapsed hstop delay ih =>
    have hnow : Endpoint.now (l'.through f).world = Endpoint.now l'.world := hf.now l'.world
    have hpause : ∀ delay, Endpoint.pause (l'.through f).world delay =
      f (Endpoint.pause l'.world delay) := hf.pause l'.world
    rw [Link.connectWithin, hf.attempt, hattempt]
    simp only [hnow, hpause]
    exact (if_neg hstop).trans ih

theorem Mirrors.connectWithRetry (hf : Mirrors f) (l : Link ω') :
    (l.through f).connectWithRetry = (l.connectWithRetry.1, l.connectWithRetry.2.through f) := by
  have hnow : Endpoint.now (l.through f).world = Endpoint.now l.world := hf.now l.world
  rw [Link.connectWithRetry, hnow]
  exact hf.connectWithin _ _ _ l

end Mirrors

/-! ### The log changes nothing -/

/-- The surroundings without the log of writes do what those with it do. -/
theorem mirrors_inner : Mirrors (Recorded.inner : Recorded ω → ω) :=
  ⟨fun _ => rfl, fun _ _ => rfl, fun _ _ _ => rfl⟩

/-- The log does not decide about connections. -/
theorem bare_ensureConnected (l : Link (Recorded ω)) :
    l.bare.ensureConnected = (l.ensureConnected.1, l.ensureConnected.2.bare) := by
  have hconnection : l.bare.connection = l.connection := rfl
  have hstopped : l.bare.isStopped = l.isStopped := rfl
  -- Both links have a connection, or both have to connect.
  rw [ensureConnected, ensureConnected, hconnection, hstopped]
  cases l.connection with
  | some generation => rfl
  | none =>
    by_cases h : l.isStopped = true
    · simp only [if_pos h]
    · simp only [if_neg h]
      exact mirrors_inner.connectWithRetry l

theorem bare_dropConnection (l : Link (Recorded ω)) (generation : Nat) :
    l.bare.dropConnection generation = (l.dropConnection generation).bare := by
  have hconnection : l.bare.connection = l.connection := rfl
  rw [dropConnection, dropConnection, hconnection]
  split <;> rfl

theorem bare_writeFrame (l : Link (Recorded ω)) (frame : String) :
    l.bare.writeFrame frame = ((l.writeFrame frame).1, (l.writeFrame frame).2.bare) := by
  rw [writeFrame, writeFrame, bare_ensureConnected]
  rcases l.ensureConnected with ⟨_ | generation, l'⟩
  · rfl
  · -- The log takes the write down, and hands it on.
    have hwrite : Endpoint.write l'.world generation (Utf8.encode frame) =
        ((Endpoint.write l'.world.inner generation (Utf8.encode frame)).1,
          ⟨(Endpoint.write l'.world.inner generation (Utf8.encode frame)).2, l'.world.writes ++
            [⟨generation, Utf8.encode frame,
              (Endpoint.write l'.world.inner generation (Utf8.encode frame)).1⟩]⟩) := rfl
    have hbare : Endpoint.write l'.bare.world generation (Utf8.encode frame) =
        Endpoint.write l'.world.inner generation (Utf8.encode frame) := rfl
    simp only [hwrite, hbare]
    rcases Endpoint.write l'.world.inner generation (Utf8.encode frame) with ⟨_ | _, world⟩
    · rw [← bare_dropConnection]
      rfl
    · rfl

theorem bare_startRounds (l : Link (Recorded ω)) : l.bare.startRounds = l.startRounds.bare := by
  unfold startRounds
  split <;> rename_i h
  · exact (if_pos h).symm ▸ rfl
  · exact (if_neg h).symm ▸ rfl

theorem bare_remember (l : Link (Recorded ω)) (id : Nat) (frame : String) :
    l.bare.remember id frame = (l.remember id frame).bare := by
  have hawaits : l.bare.awaitsAcks = l.awaitsAcks := rfl
  rw [remember, remember, hawaits]
  split <;> rfl

theorem bare_prepared (l : Link (Recorded ω)) (m : Message) :
    l.bare.prepared m = (l.prepared m).bare := by
  rw [prepared, bare_startRounds]
  exact bare_remember { l.startRounds with nextId := l.nextId + 1 } m.id m.frame

/-- The log does not decide what a send answers. -/
theorem bare_send (l : Link (Recorded ω)) (source payload : String) :
    l.bare.send source payload =
      ((l.send source payload).1, (l.send source payload).2.bare) := by
  by_cases h : l.isStopped = true
  · rw [send_of_isStopped h, send_of_isStopped (l := l.bare) h]
  · have hid : l.bare.nextId = l.nextId := rfl
    rw [send_of_isOpen h, send_of_isOpen (l := l.bare) h, hid, bare_prepared, bare_writeFrame]
    rcases writeFrame _ _ with ⟨_ | _, l'⟩ <;> rfl

theorem bare_writeAgain (frames : List (Nat × String)) (l : Link (Recorded ω)) :
    writeAgain frames l.bare = (writeAgain frames l).bare := by
  induction frames generalizing l with
  | nil => rfl
  | cons p frames ih =>
    obtain ⟨id, frame⟩ := p
    have hcontains : l.bare.unanswered.contains id = l.unanswered.contains id := rfl
    rw [writeAgain, writeAgain, hcontains, bare_writeFrame]
    split
    · rcases l.writeFrame frame with ⟨_ | _, l'⟩
      · rfl
      · exact ih { l' with counted := l'.counted.countResent }
    · exact ih l

theorem bare_resendRound (l : Link (Recorded ω)) :
    l.bare.resendRound = l.resendRound.bare := by
  cases h : l.settings.ackTimeout with
  | none => rw [resendRound_of_none h, resendRound_of_none (l := l.bare) h]
  | some timeout =>
    rw [resendRound_of_some h, resendRound_of_some (l := l.bare) h, ← bare_writeAgain]
    rfl

theorem bare_stop (l : Link (Recorded ω)) : l.bare.stop = l.stop.bare := by
  cases h : l.connection with
  | none =>
    rw [stop_of_none h, stop_of_none (l := l.bare) h]
    rfl
  | some generation =>
    rw [stop_of_some h, stop_of_some (l := l.bare) h, ← bare_dropConnection]
    rfl

omit [Endpoint ω] in
theorem bare_handleAckLine (l : Link (Recorded ω)) (line : String) :
    l.bare.handleAckLine line = (l.handleAckLine line).bare := by
  unfold handleAckLine
  cases Ack.parse? line <;> rfl

/-- **The log changes nothing.** -/
theorem bare_take (l : Link ω) (s : Step ω) : (l.recorded.take s.recorded).bare = l.take s := by
  cases s with
  | send source payload => exact (congrArg Prod.snd (bare_send l.recorded source payload)).symm
  | ack line => exact (bare_handleAckLine l.recorded line).symm
  | round => exact (bare_resendRound l.recorded).symm
  | drop generation => exact (bare_dropConnection l.recorded generation).symm
  | close => exact (bare_stop l.recorded).symm
  | elsewhere world => rfl

/-- Each step does the same with a log beside it. -/
theorem deed_recorded (l : Link ω) (s : Step ω) : l.recorded.deed s.recorded = l.deed s := by
  cases s with
  | send source payload =>
    have hanswer : (l.send source payload).1 = (l.recorded.send source payload).1 :=
      congrArg Prod.fst (bare_send l.recorded source payload)
    simp only [deed, hanswer]
    rfl
  | _ => rfl

end Link

end Telemetry
