import Mathlib.Data.List.Basic
import Mathlib.Data.List.Induction
import Mathlib.Data.List.Range
import Telemetry.Link.Agent
import Telemetry.Proofs.Link.Recording

namespace Telemetry

/-!
# What travels over the connections of a link

A connection that broke in the middle of a frame must carry nothing more, and what is noticed late
about an old connection must not end the new one.

* `Signal`, `Watched` — surroundings that note openings, writes and ends; a write that fails may
  have taken any part of its frame.
* `Link.Act`, `Link.perform`, `Link.calls` — single writes, ends that are noticed, and stopping, in
  any order, with the writes and their answers.
* `Link.exists_acts_send`, `Link.exists_acts_resendRound` — a send and a round are such acts.
* `Link.Traffic` — the ways in which the connections can go on, and `Link.traffic_perform`, by
  which an act goes one of these ways.
* `Link.carries_performAll` — what holds on every connection, whatever happens.
-/

/-! ### Surroundings that watch -/

/-- What happens on a connection. -/
inductive Signal where
  | opened (generation : Nat)
  /-- a write: the bytes of its frame, those that the connection took, and the answer -/
  | wrote (generation : Nat) (frame taken : List UInt8) (answer : Except String Unit)
  | ended (generation : Nat)

namespace Signal

/-- The connection. -/
def generation : Signal → Nat
  | opened generation | wrote generation _ _ _ | ended generation => generation

/-- The connection that was opened. -/
def opened? : Signal → Option Nat
  | opened generation => some generation
  | _ => none

/-- Something was written, or its writing was tried. -/
def isWrite : Signal → Bool
  | wrote .. => true
  | _ => false

/-- The frame of a write that succeeded. -/
def whole? : Signal → Option (List UInt8)
  | wrote _ frame _ (.ok _) => some frame
  | _ => none

/-- The connection broke in a write, or was ended. -/
def isFinal : Signal → Bool
  | wrote _ _ _ (.error _) | ended _ => true
  | _ => false

/-- The bytes that a connection took. -/
def takenOn (generation : Nat) : Signal → List UInt8
  | wrote g _ taken _ => if g = generation then taken else []
  | _ => []

end Signal

/-- The bytes that a connection took, in order. -/
def bytesOn (generation : Nat) (signals : List Signal) : List UInt8 :=
  signals.flatMap (Signal.takenOn generation)

/-- Surroundings, and the signals so far.  The bytes that are taken in a write that fails are any
    front part of the frame: `torn` gives their number for each place among the signals. -/
structure Watched (ω : Type) where
  inner : ω
  torn : Nat → Nat
  signals : List Signal

namespace Watched

/-- One more signal. -/
def note {ω : Type} (w : Watched ω) (inner : ω) (s : Signal) : Watched ω :=
  { w with inner := inner, signals := w.signals ++ [s] }

/-- The bytes that are taken in a write, by its answer. -/
def taken {ω : Type} (w : Watched ω) (bytes : List UInt8) : Except String Unit → List UInt8
  | .ok _ => bytes
  | .error _ => bytes.take (w.torn w.signals.length)

instance {ω : Type} [Endpoint ω] : Endpoint (Watched ω) where
  now w := Endpoint.now w.inner
  pause w delay := { w with inner := Endpoint.pause w.inner delay }
  connect w path generation :=
    match Endpoint.connect w.inner path generation with
    | (.ok u, inner) => (.ok u, w.note inner (.opened generation))
    | (.error reason, inner) => (.error reason, { w with inner := inner })
  write w generation bytes :=
    let (answer, inner) := Endpoint.write w.inner generation bytes
    (answer, w.note inner (.wrote generation bytes (w.taken bytes answer) answer))
  shutdown w generation := w.note (Endpoint.shutdown w.inner generation) (.ended generation)

end Watched

namespace Link

variable {ω : Type} [Endpoint ω]

/-! ### Acts -/

/-- What can happen around the connections of a link. -/
inductive Act (ω : Type) where
  /-- a frame is written, for the first time or again -/
  | write (frame : String)
  /-- the end of a connection is noticed -/
  | drop (generation : Nat)
  | stop
  /-- messages are remembered, counted or forgotten -/
  | note (unanswered : PendingFrames) (counted : TransportStats) (nextId : Nat)
    (resendAt : Option Nat)
  /-- time goes by, or the other side does something -/
  | elsewhere (world : ω)

/-- The frame that an act writes. -/
def Act.frame? : Act ω → Option String
  | write frame => some frame
  | _ => none

/-- One act. -/
def perform (l : Link (Watched ω)) : Act ω → Link (Watched ω)
  | .write frame => (l.writeFrame frame).2
  | .drop generation => l.dropConnection generation
  | .stop => l.stop
  | .note unanswered counted nextId resendAt =>
    { l with unanswered := unanswered, counted := counted, nextId := nextId, resendAt := resendAt }
  | .elsewhere world => { l with world := { l.world with inner := world } }

/-- Acts one after the other. -/
def performAll (l : Link (Watched ω)) (acts : List (Act ω)) : Link (Watched ω) :=
  acts.foldl perform l

/-- A frame that was to be written, and the answer. -/
structure Call where
  frame : String
  answer : Except String Unit

/-- The write of an act, with its answer. -/
def call (l : Link (Watched ω)) (a : Act ω) : List Call :=
  a.frame?.toList.map fun frame => ⟨frame, (l.writeFrame frame).1⟩

/-- The writes of acts one after the other, each with its answer. -/
def calls (l : Link (Watched ω)) : List (Act ω) → List Call
  | [] => []
  | a :: acts => l.call a ++ (l.perform a).calls acts

/-- Acts may be cut into two parts. -/
theorem performAll_append (l : Link (Watched ω)) (acts more : List (Act ω)) :
    l.performAll (acts ++ more) = (l.performAll acts).performAll more :=
  List.foldl_append

theorem calls_append_singleton (l : Link (Watched ω)) (acts : List (Act ω)) (a : Act ω) :
    l.calls (acts ++ [a]) = l.calls acts ++ (l.performAll acts).call a := by
  induction acts generalizing l with
  | nil => exact List.append_nil _
  | cons b acts ih =>
    rw [List.cons_append, calls, calls, ih, List.append_assoc]
    rfl

/-! ### Sends and rounds -/

/-- The act of writing is the write itself. -/
theorem perform_write {l l' : Link (Watched ω)} {frame : String} {answer : Except String Unit}
    (h : l.writeFrame frame = (answer, l')) : l.perform (.write frame) = l' :=
  congrArg Prod.snd h

/-- A link is prepared for a message by a note. -/
theorem exists_note_prepared (l : Link (Watched ω)) (m : Message) :
    ∃ a : Act ω, a.frame? = none ∧ l.prepared m = l.perform a := by
  refine ⟨.note (l.prepared m).unanswered l.counted (l.nextId + 1) (l.prepared m).resendAt, rfl, ?_⟩
  unfold prepared remember startRounds
  split <;> split <;> rfl

/-- **A send is acts,** and one of them writes the frame of its message. -/
theorem exists_acts_send (l : Link (Watched ω)) (source payload : String) :
    ∃ acts : List (Act ω), (l.send source payload).2 = l.performAll acts ∧
      acts.filterMap Act.frame? =
        if l.isStopped then [] else [(⟨source, l.nextId, payload⟩ : Message).frame] := by
  by_cases h : l.isStopped = true
  · rw [send_of_isStopped h, if_pos h]
    exact ⟨[], rfl, rfl⟩
  · rw [send_of_isOpen h, if_neg h]
    generalize (⟨source, l.nextId, payload⟩ : Message) = m
    -- The acts are what is noted before the write, the write, and what is noted after it.
    obtain ⟨note, hframe, hnote⟩ := exists_note_prepared l m
    have hframes : ∀ b : Act ω, b.frame? = none →
        [note, .write m.frame, b].filterMap Act.frame? = [m.frame] := by
      intro b hb
      simp only [List.filterMap_cons, hframe, hb, List.filterMap_nil]
      rfl
    rw [hnote]
    rcases hwrite : (l.perform note).writeFrame m.frame with ⟨reason | u, l'⟩
    · refine ⟨[note, .write m.frame, .note (l'.unanswered.remove l.nextId).2
        l'.counted.countFailed l'.nextId l'.resendAt], ?_, hframes _ rfl⟩
      rw [performAll, List.foldl_cons, List.foldl_cons, perform_write hwrite]
      rfl
    · refine ⟨[note, .write m.frame, .note l'.unanswered l'.counted.countSent l'.nextId
        l'.resendAt], ?_, hframes _ rfl⟩
      rw [performAll, List.foldl_cons, List.foldl_cons, perform_write hwrite]
      rfl

/-- Writing again is made of acts, which write some of the frames in order. -/
theorem exists_acts_writeAgain (frames : List (Nat × String)) (l : Link (Watched ω)) :
    ∃ acts : List (Act ω), writeAgain frames l = l.performAll acts ∧
      (acts.filterMap Act.frame?).Sublist (frames.map Prod.snd) := by
  induction frames generalizing l with
  | nil => exact ⟨[], rfl, .slnil⟩
  | cons p frames ih =>
    obtain ⟨id, frame⟩ := p
    rw [writeAgain]
    split
    · rcases hwrite : l.writeFrame frame with ⟨reason | u, l'⟩
      · exact ⟨[.write frame], (perform_write hwrite).symm, (List.nil_sublist _).cons_cons _⟩
      · obtain ⟨acts, hacts, hsub⟩ := ih { l' with counted := l'.counted.countResent }
        refine ⟨.write frame :: .note l'.unanswered l'.counted.countResent l'.nextId l'.resendAt ::
          acts, ?_, hsub.cons_cons _⟩
        rw [performAll, List.foldl_cons, perform_write hwrite]
        exact hacts
    · obtain ⟨acts, hacts, hsub⟩ := ih l
      exact ⟨acts, hacts, hsub.cons _⟩

/-- **A round is acts,** and they write frames that wait, in their order. -/
theorem exists_acts_resendRound (l : Link (Watched ω)) :
    ∃ acts : List (Act ω), l.resendRound = l.performAll acts ∧
      (acts.filterMap Act.frame?).Sublist (l.unanswered.snapshot.map Prod.snd) := by
  cases h : l.settings.ackTimeout with
  | none => exact ⟨[], resendRound_of_none h, List.nil_sublist _⟩
  | some timeout =>
    obtain ⟨acts, hacts, hsub⟩ :=
      exists_acts_writeAgain (l.kept timeout).snapshot { l with unanswered := l.kept timeout }
    refine ⟨.note (l.kept timeout) l.counted l.nextId l.resendAt :: acts, ?_, hsub.trans ?_⟩
    · rw [resendRound_of_some h, hacts]
      rfl
    · exact ((List.filter_sublist (l := l.unanswered.entries)).map _).map _

/-! ### How connections go on -/

/-- What has come of the writes so far (`calls`), the signals so far, the number of connections that
    were opened, and the one that is open now. -/
inductive Traffic : List Call → List Signal → Nat → Option Nat → Prop
  | start : Traffic [] [] 0 none
  /-- a connection is opened when none is -/
  | opened {calls : List Call} {signals : List Signal} {n : Nat}
      (h : Traffic calls signals n none) :
    Traffic calls (signals ++ [.opened (n + 1)]) (n + 1) (some (n + 1))
  /-- no connection could be had for a frame -/
  | unconnected {calls : List Call} {signals : List Signal} {n : Nat}
      {current : Option Nat} (frame reason : String) (h : Traffic calls signals n current) :
    Traffic (calls ++ [⟨frame, .error reason⟩]) signals n current
  /-- a frame is taken -/
  | wrote {calls : List Call} {signals : List Signal} {n generation : Nat}
      (frame : String) (h : Traffic calls signals n (some generation)) :
    Traffic (calls ++ [⟨frame, .ok ()⟩])
      (signals ++ [.wrote generation (Utf8.encode frame) (Utf8.encode frame) (.ok ())])
      n (some generation)
  /-- a connection breaks in a frame, of which it may have taken a part, and is ended -/
  | broke {calls : List Call} {signals : List Signal} {n generation : Nat}
      (frame reason : String) (k : Nat) (h : Traffic calls signals n (some generation)) :
    Traffic (calls ++ [⟨frame, .error reason⟩])
      (signals ++
        [.wrote generation (Utf8.encode frame) ((Utf8.encode frame).take k) (.error reason)] ++
        [.ended generation])
      n none
  /-- a connection is ended -/
  | ended {calls : List Call} {signals : List Signal} {n generation : Nat}
      (h : Traffic calls signals n (some generation)) :
    Traffic calls (signals ++ [.ended generation]) n none

/-- The connections of a link have come this far. -/
def Went (l : Link (Watched ω)) (calls : List Call) : Prop :=
  Traffic calls l.world.signals l.generation l.connection

variable {l l' : Link (Watched ω)} {calls : List Call}

/-- One attempt opens a connection or does nothing. -/
theorem Went.attempt (h : l.Went calls) (hnone : l.connection = none) :
    l.attempt.2.Went calls := by
  have htraffic : Traffic calls l.world.signals l.generation none := hnone ▸ h
  simp only [Link.attempt, Endpoint.connect]
  rcases Endpoint.connect l.world.inner l.settings.socketPath (l.generation + 1) with
    ⟨reason | u, inner⟩
  · exact h
  · exact htraffic.opened

/-- Attempts one after the other open one connection at most. -/
theorem Went.connectWithin (budget start waited : Nat) (h : l.Went calls)
    (hnone : l.connection = none) : (l.connectWithin budget start waited).2.Went calls := by
  fun_induction Link.connectWithin budget start waited l with
  | case1 waited l generation l' hattempt =>
    have hwent := h.attempt hnone
    rwa [hattempt] at hwent
  | case2 waited l reason l' hattempt elapsed hstop =>
    have hwent := h.attempt hnone
    rwa [hattempt] at hwent
  | case3 waited l reason l' hattempt elapsed hstop delay ih =>
    have hwent := h.attempt hnone
    have hconnection := connection_attempt hnone
    rw [hattempt] at hwent hconnection
    exact ih hwent hconnection

/-- A connection is opened only where there is none. -/
theorem Went.ensureConnected (h : l.Went calls) : l.ensureConnected.2.Went calls := by
  cases hconnection : l.connection with
  | some generation =>
    simp only [Link.ensureConnected, hconnection]
    exact h
  | none =>
    simp only [Link.ensureConnected, hconnection]
    split
    · exact h
    · exact h.connectWithin _ _ _ hconnection

/-- The open connection is ended when its own end is noticed. -/
theorem dropConnection_of_eq {generation : Nat} (h : l.connection = some generation) :
    l.dropConnection generation =
      { l with world := Endpoint.shutdown l.world generation, connection := none } := by
  rw [Link.dropConnection, if_pos h]

/-- The end of any other connection changes nothing. -/
theorem dropConnection_of_ne {generation : Nat} (h : l.connection ≠ some generation) :
    l.dropConnection generation = l := by
  rw [Link.dropConnection, if_neg h]

theorem Went.dropConnection (h : l.Went calls) (generation : Nat) :
    (l.dropConnection generation).Went calls := by
  by_cases hopen : l.connection = some generation
  · have htraffic : Traffic calls l.world.signals l.generation (some generation) := hopen ▸ h
    rw [dropConnection_of_eq hopen]
    exact htraffic.ended
  · rw [dropConnection_of_ne hopen]
    exact h

/-- **A write goes one of the ways,** and its answer says which. -/
theorem Went.writeFrame (h : l.Went calls) (frame : String) :
    (l.writeFrame frame).2.Went (calls ++ [⟨frame, (l.writeFrame frame).1⟩]) := by
  have hwent := h.ensureConnected
  have hconnection := connection_ensureConnected l
  rcases hconnected : l.ensureConnected with ⟨reason | generation, l'⟩
  · rw [hconnected] at hwent
    simp only [Link.writeFrame, hconnected]
    exact hwent.unconnected frame reason
  · rw [hconnected] at hwent hconnection
    have hopen : l'.connection = some generation := hconnection
    have htraffic : Traffic calls l'.world.signals l'.generation (some generation) :=
      hopen ▸ hwent
    simp only [Link.writeFrame, hconnected, Endpoint.write]
    rcases Endpoint.write l'.world.inner generation (Utf8.encode frame) with ⟨reason | u, inner⟩
    · have hbroke := htraffic.broke frame reason (l'.world.torn l'.world.signals.length)
      simp only
      rw [dropConnection_of_eq (by exact hopen)]
      exact hbroke
    · show Traffic _ _ _ l'.connection
      rw [hopen]
      exact htraffic.wrote frame

/-- An act without a frame writes nothing. -/
theorem call_of_frame?_eq_none {a : Act ω} (h : a.frame? = none) : l.call a = [] := by
  rw [call, h]
  rfl

/-- **An act goes one of the ways.** -/
theorem Went.perform (h : l.Went calls) (a : Act ω) : (l.perform a).Went (calls ++ l.call a) := by
  cases a with
  | write frame => exact h.writeFrame frame
  | drop generation =>
    rw [call_of_frame?_eq_none rfl, List.append_nil]
    exact h.dropConnection generation
  | stop =>
    rw [call_of_frame?_eq_none rfl, List.append_nil, Link.perform]
    cases hconnection : l.connection with
    | none =>
      rw [stop_of_none hconnection]
      exact h
    | some generation =>
      rw [stop_of_some hconnection]
      exact Went.dropConnection (l := { l with isStopped := true, resendAt := none }) h generation
  | note | elsewhere =>
    rw [call_of_frame?_eq_none rfl, List.append_nil]
    exact h

/-! ### What holds of all connections -/

/-- The frames of the writes that succeeded, in order. -/
def succeeded (calls : List Call) : List String :=
  calls.filterMap fun c => c.answer.toOption.map fun _ => c.frame

/-- Writes that succeeded. -/
def succeeding (frames : List String) : List Call := frames.map fun frame => ⟨frame, .ok ()⟩

/-- Whole frames of writes that succeeded, in their order. -/
def CarriesWhole (calls : List Call) (bytes : List UInt8) : Prop :=
  ∃ frames : List String, (succeeding frames).Sublist calls ∧ bytes = frames.flatMap Utf8.encode

/-- Whole frames of writes that succeeded, in their order, and then at most a part of one frame
    whose write failed after them. -/
def Carries (calls : List Call) (bytes : List UInt8) : Prop :=
  CarriesWhole calls bytes ∨
    ∃ (frames : List String) (frame reason : String) (part : List UInt8),
      (succeeding frames ++ [(⟨frame, .error reason⟩ : Call)]).Sublist calls ∧
        part <+: Utf8.encode frame ∧ bytes = frames.flatMap Utf8.encode ++ part

theorem CarriesWhole.nil (calls : List Call) : CarriesWhole calls [] :=
  ⟨[], List.nil_sublist _, rfl⟩

/-- Writes that come later do not change what was carried whole. -/
theorem CarriesWhole.append (c : List Call) {bytes : List UInt8} (h : CarriesWhole calls bytes) :
    CarriesWhole (calls ++ c) bytes := by
  obtain ⟨frames, hsub, hbytes⟩ := h
  exact ⟨frames, hsub.trans (List.sublist_append_left _ _), hbytes⟩

/-- One more frame was taken. -/
theorem CarriesWhole.wrote {bytes : List UInt8} (h : CarriesWhole calls bytes) (frame : String) :
    CarriesWhole (calls ++ [⟨frame, .ok ()⟩]) (bytes ++ Utf8.encode frame) := by
  obtain ⟨frames, hsub, rfl⟩ := h
  refine ⟨frames ++ [frame], ?_, ?_⟩
  · rw [succeeding, List.map_append]
    exact hsub.append (List.Sublist.refl _)
  · rw [List.flatMap_append, List.flatMap_singleton]

/-- A part of one more frame was taken. -/
theorem CarriesWhole.broke {bytes part : List UInt8} (h : CarriesWhole calls bytes)
    {frame : String} (reason : String) (hpart : part <+: Utf8.encode frame) :
    Carries (calls ++ [⟨frame, .error reason⟩]) (bytes ++ part) := by
  obtain ⟨frames, hsub, rfl⟩ := h
  exact .inr ⟨frames, frame, reason, part, hsub.append (List.Sublist.refl _), hpart, rfl⟩

theorem Carries.append (c : List Call) {bytes : List UInt8} (h : Carries calls bytes) :
    Carries (calls ++ c) bytes := by
  rcases h with h | ⟨frames, frame, reason, part, hsub, hpart⟩
  · exact .inl (h.append c)
  · exact .inr ⟨frames, frame, reason, part, hsub.trans (List.sublist_append_left _ _), hpart⟩

/-- Bytes are taken in the order of the signals. -/
theorem bytesOn_append (generation : Nat) (signals more : List Signal) :
    bytesOn generation (signals ++ more) = bytesOn generation signals ++ bytesOn generation more :=
  List.flatMap_append

/-- A connection without signals took nothing. -/
theorem bytesOn_eq_nil {generation : Nat} {signals : List Signal}
    (h : ∀ s ∈ signals, s.generation ≠ generation) : bytesOn generation signals = [] := by
  refine List.flatMap_eq_nil_iff.2 fun s hs => ?_
  cases s with
  | opened | ended => rfl
  | wrote g frame taken answer => exact if_neg (h _ hs)

/-- A write puts its bytes on its own connection. -/
theorem bytesOn_wrote (generation g : Nat) (frame taken : List UInt8)
    (answer : Except String Unit) :
    bytesOn generation [.wrote g frame taken answer] = if g = generation then taken else [] := by
  simp [bytesOn, Signal.takenOn]

namespace Traffic

variable {signals : List Signal} {n : Nat} {current : Option Nat}

/-- An open connection is the last one that was opened. -/
theorem eq_of_current (h : Traffic calls signals n current) {g : Nat} (hg : current = some g) :
    g = n := by
  induction h with
  | start | broke | ended => cases hg
  | opened => exact (Option.some.inj hg).symm
  | unconnected frame reason h ih => exact ih hg
  | wrote frame h ih => exact ih hg

/-- All signals are of connections that were opened. -/
theorem generation_le (h : Traffic calls signals n current) {s : Signal} (hs : s ∈ signals) :
    s.generation ≤ n := by
  induction h with
  | start => exact absurd hs List.not_mem_nil
  | opened h ih =>
    rcases List.mem_append.1 hs with hs | hs
    · exact Nat.le_succ_of_le (ih hs)
    · rw [List.mem_singleton.1 hs]
      exact Nat.le_refl _
  | unconnected frame reason h ih => exact ih hs
  | wrote frame h ih | ended h ih =>
    rcases List.mem_append.1 hs with hs | hs
    · exact ih hs
    · rw [List.mem_singleton.1 hs]
      exact Nat.le_of_eq (h.eq_of_current rfl)
  | broke frame reason k h ih =>
    rcases List.mem_append.1 hs with hs | hs
    · rcases List.mem_append.1 hs with hs | hs
      · exact ih hs
      · rw [List.mem_singleton.1 hs]
        exact Nat.le_of_eq (h.eq_of_current rfl)
    · rw [List.mem_singleton.1 hs]
      exact Nat.le_of_eq (h.eq_of_current rfl)

/-- Connections are numbered in the order in which they are opened. -/
theorem opened_eq (h : Traffic calls signals n current) :
    signals.filterMap Signal.opened? = List.range' 1 n := by
  induction h with
  | start => rfl
  | opened h ih =>
    rw [List.filterMap_append, ih, List.range'_concat]
    simp [Signal.opened?, Nat.add_comm]
  | unconnected frame reason h ih => exact ih
  | wrote frame h ih | ended h ih =>
    rw [List.filterMap_append, ih]
    exact List.append_nil _
  | broke frame reason k h ih =>
    rw [List.filterMap_append, List.filterMap_append, ih]
    simp [Signal.opened?]

/-- The frames that were taken whole are those of the writes that succeeded. -/
theorem whole_eq (h : Traffic calls signals n current) :
    signals.filterMap Signal.whole? = (succeeded calls).map Utf8.encode := by
  induction h with
  | start => rfl
  | opened h ih | ended h ih =>
    rw [List.filterMap_append, ih]
    exact List.append_nil _
  | unconnected frame reason h ih =>
    rw [ih, succeeded, succeeded, List.filterMap_append]
    simp [Except.toOption]
  | wrote frame h ih =>
    rw [List.filterMap_append, ih, succeeded, succeeded, List.filterMap_append, List.map_append]
    rfl
  | broke frame reason k h ih =>
    rw [List.filterMap_append, List.filterMap_append, ih, succeeded, succeeded,
      List.filterMap_append, List.map_append]
    simp [Signal.whole?, Except.toOption]

/-- A connection that broke or was ended is not open. -/
theorem ne_of_isFinal (h : Traffic calls signals n current) {s : Signal} (hs : s ∈ signals)
    (hfinal : s.isFinal = true) : current ≠ some s.generation := by
  induction h with
  | start => exact absurd hs List.not_mem_nil
  | @opened calls signals n h ih =>
    rcases List.mem_append.1 hs with hs | hs
    · -- The new connection has a higher number than all before it.
      have hle := h.generation_le hs
      intro heq
      have hnew : n + 1 = s.generation := Option.some.inj heq
      omega
    · rw [List.mem_singleton.1 hs] at hfinal
      cases hfinal
  | unconnected frame reason h ih => exact ih hs
  | wrote frame h ih =>
    rcases List.mem_append.1 hs with hs | hs
    · exact ih hs
    · rw [List.mem_singleton.1 hs] at hfinal
      cases hfinal
  | broke | ended => exact Option.some_ne_none _ |>.symm

/-- **Nothing more is written** on a connection that broke or was ended. -/
theorem pairwise_isFinal (h : Traffic calls signals n current) :
    signals.Pairwise fun a b =>
      a.isFinal = true → b.isWrite = true → b.generation ≠ a.generation := by
  induction h with
  | start => exact .nil
  -- These signals write nothing.
  | opened h ih | ended h ih =>
    refine List.pairwise_append.2 ⟨ih, List.pairwise_singleton _ _, ?_⟩
    intro a ha b hb hfinal hwrite
    rw [List.mem_singleton.1 hb] at hwrite
    cases hwrite
  | unconnected frame reason h ih => exact ih
  -- Writes are made on the open connection, which is none of those that ended.
  | wrote frame h ih =>
    refine List.pairwise_append.2 ⟨ih, List.pairwise_singleton _ _, ?_⟩
    intro a ha b hb hfinal hwrite heq
    rw [List.mem_singleton.1 hb] at heq
    exact h.ne_of_isFinal ha hfinal (congrArg some heq)
  | broke frame reason k h ih =>
    refine List.pairwise_append.2 ⟨List.pairwise_append.2 ⟨ih, List.pairwise_singleton _ _, ?_⟩,
      List.pairwise_singleton _ _, ?_⟩
    · intro a ha b hb hfinal hwrite heq
      rw [List.mem_singleton.1 hb] at heq
      exact h.ne_of_isFinal ha hfinal (congrArg some heq)
    · intro a ha b hb hfinal hwrite
      rw [List.mem_singleton.1 hb] at hwrite
      cases hwrite

/-- **On each connection** are whole frames and at most one part of a frame; the open one has no
    such part. -/
theorem carries (h : Traffic calls signals n current) :
    (∀ g, Carries calls (bytesOn g signals)) ∧
      ∀ g, current = some g → CarriesWhole calls (bytesOn g signals) := by
  induction h with
  | start => exact ⟨fun g => .inl (.nil _), fun g _ => .nil _⟩
  | @opened calls signals n h ih =>
    have hsame : ∀ g, bytesOn g (signals ++ [.opened (n + 1)]) = bytesOn g signals := by
      intro g
      rw [bytesOn_append]
      exact List.append_nil _
    refine ⟨fun g => hsame g ▸ ih.1 g, fun g hg => ?_⟩
    -- The new connection has a number of its own.
    have hnew : bytesOn g signals = [] := by
      apply bytesOn_eq_nil
      intro s hs
      have hle := h.generation_le hs
      have heq : n + 1 = g := Option.some.inj hg
      omega
    rw [hsame, hnew]
    exact .nil _
  | unconnected frame reason h ih =>
    exact ⟨fun g => (ih.1 g).append _, fun g hg => (ih.2 g hg).append _⟩
  | @wrote calls signals n generation frame h ih =>
    have hopen := (ih.2 generation rfl).wrote frame
    refine ⟨fun g => ?_, fun g hg => ?_⟩
    · rw [bytesOn_append, bytesOn_wrote]
      split
      · rename_i heq
        exact .inl (heq ▸ hopen)
      · rw [List.append_nil]
        exact (ih.1 g).append _
    · obtain rfl : generation = g := Option.some.inj hg
      rw [bytesOn_append, bytesOn_wrote, if_pos rfl]
      exact hopen
  | @broke calls signals n generation frame reason k h ih =>
    have hopen := (ih.2 generation rfl).broke reason (List.take_prefix k (Utf8.encode frame))
    refine ⟨fun g => ?_, fun g hg => absurd hg (by simp)⟩
    have hended : bytesOn g [.ended generation] = [] := rfl
    rw [bytesOn_append, bytesOn_append, bytesOn_wrote, hended, List.append_nil]
    split
    · rename_i heq
      exact heq ▸ hopen
    · rw [List.append_nil]
      exact (ih.1 g).append _
  | @ended calls signals n generation h ih =>
    refine ⟨fun g => ?_, fun g hg => absurd hg (by simp)⟩
    rw [bytesOn_append]
    exact (List.append_nil _).symm ▸ ih.1 g

end Traffic

/-! ### After stopping -/

/-- The link is stopped and holds no connection. -/
structure Halted (l : Link (Watched ω)) : Prop where
  isStopped : l.isStopped = true
  connection : l.connection = none

/-- Whatever the link was doing, stopping halts it. -/
theorem halted_stop (l : Link (Watched ω)) : l.stop.Halted := by
  cases h : l.connection with
  | none =>
    rw [stop_of_none h]
    exact ⟨rfl, h⟩
  | some generation =>
    rw [stop_of_some h, dropConnection_of_eq (by exact h)]
    exact ⟨rfl, rfl⟩

/-- On a halted link no act opens, writes or ends anything. -/
theorem Halted.perform (h : l.Halted) (a : Act ω) :
    (l.perform a).Halted ∧ (l.perform a).world.signals = l.world.signals := by
  cases a with
  | write frame =>
    have hwrite : l.writeFrame frame = (.error "not connected", l) := by
      simp only [Link.writeFrame, Link.ensureConnected, h.connection, h.isStopped, if_true]
    rw [perform_write hwrite]
    exact ⟨h, rfl⟩
  | drop generation =>
    rw [Link.perform, dropConnection_of_ne (by simp [h.connection])]
    exact ⟨h, rfl⟩
  | stop =>
    rw [Link.perform, stop_of_none h.connection]
    exact ⟨⟨rfl, h.connection⟩, rfl⟩
  | note | elsewhere => exact ⟨⟨h.isStopped, h.connection⟩, rfl⟩

/-- A halted link gives no more signals. -/
theorem Halted.performAll (h : l.Halted) (acts : List (Act ω)) :
    (l.performAll acts).world.signals = l.world.signals := by
  induction acts generalizing l with
  | nil => rfl
  | cons a acts ih =>
    obtain ⟨hnext, hsignals⟩ := h.perform a
    exact (ih hnext).trans hsignals

/-! ### Runs -/

/-- The connections of a new link go on in one of the ways, whatever happens. -/
theorem Went.performAll (h : l.Went []) (acts : List (Act ω)) :
    (l.performAll acts).Went (l.calls acts) := by
  induction acts using List.reverseRecOn with
  | nil => exact h
  | append_singleton acts a ih =>
    rw [calls_append_singleton, performAll_append]
    exact ih.perform a

/-- **Frames on connections.** Let frames be written on a new link, for the first time or again,
    let ends of connections be noticed, whether they are those of the open connection or of an old
    one, and let the link be stopped, in any order.  Attempts to connect may fail, and a write may
    fail after any part of its frame.

    Each connection carries whole frames in the order of their writes, and then at most a part of
    one more; after it broke or was ended nothing more is written to it.  The whole frames on all
    connections are those of the writes that succeeded.  Connections are numbered upwards.  When
    the end of a connection is noticed, this one is ended if it is still open, and nothing is done
    otherwise.  After the link was stopped no connection is opened, and nothing is written.

    A send and a round of writing again are such writes. -/
theorem carries_performAll (world : ω) (torn : Nat → Nat) (settings : Settings)
    (acts : List (Act ω)) :
    let start : Link (Watched ω) := { world := ⟨world, torn, []⟩, settings := settings }
    let calls := start.calls acts
    let l := start.performAll acts
    (∀ g, Carries calls (bytesOn g l.world.signals)) ∧
    (l.world.signals.Pairwise fun a b => a.isFinal → b.isWrite → b.generation ≠ a.generation) ∧
    l.world.signals.filterMap Signal.whole? = (succeeded calls).map Utf8.encode ∧
    (l.world.signals.filterMap Signal.opened?).Pairwise (· < ·) ∧
    (∀ g, (l.connection = some g →
        (l.dropConnection g).world.signals = l.world.signals ++ [.ended g]) ∧
      (l.connection ≠ some g → l.dropConnection g = l)) ∧
    (∀ later, (start.performAll (acts ++ .stop :: later)).world.signals =
      l.stop.world.signals) ∧
    (∀ source payload, ∃ more : List (Act ω), (l.send source payload).2 = l.performAll more ∧
      more.filterMap Act.frame? =
        if l.isStopped then [] else [(⟨source, l.nextId, payload⟩ : Message).frame]) ∧
    (∃ more : List (Act ω), l.resendRound = l.performAll more ∧
      (more.filterMap Act.frame?).Sublist (l.unanswered.snapshot.map Prod.snd)) := by
  intro start calls l
  -- The first four parts hold of any traffic, which is what the acts leave behind.
  have htraffic : Traffic calls l.world.signals l.generation l.connection :=
    Went.performAll (l := start) .start acts
  refine ⟨htraffic.carries.1, htraffic.pairwise_isFinal, htraffic.whole_eq, ?_, ?_, ?_,
    exists_acts_send l, exists_acts_resendRound l⟩
  · rw [htraffic.opened_eq]
    exact List.pairwise_lt_range'
  · intro g
    refine ⟨fun hopen => ?_, dropConnection_of_ne⟩
    rw [dropConnection_of_eq hopen]
    rfl
  · intro later
    rw [performAll_append]
    exact (halted_stop l).performAll later

/-- A frame is written to an agent that listens; then the end of its connection is noticed, or the
    end of a connection that is not there. -/
theorem carries_performAll_two_ends :
    let start : Link (Watched Agent) :=
      { world := ⟨{ file := .listening }, fun _ => 0, []⟩, settings := { socketPath := "agent" } }
    let l := start.performAll [.write "a"]
    l.connection = some 1 ∧
      (l.dropConnection 1).world.signals = l.world.signals ++ [.ended 1] ∧
      l.dropConnection 2 = l := by
  intro start l
  have hopen : l.connection = some 1 := by decide +kernel
  obtain ⟨-, -, -, -, hdrop, -⟩ := carries_performAll ({ file := .listening } : Agent)
    (fun _ => 0) { socketPath := "agent" } [.write "a"]
  refine ⟨hopen, (hdrop 1).1 hopen, (hdrop 2).2 ?_⟩
  rw [hopen]
  decide

end Link

end Telemetry
