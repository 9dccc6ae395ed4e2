import Mathlib.Data.List.Nodup
import Telemetry.Link.Agent
import Telemetry.Proofs.Link.Delivery

namespace Telemetry

/-!
# Sending again

What the rounds of a run write, and how often, told by the clock.

* `Link.Moment`, `Link.timeline` — the steps of a run, each with the time at which it began.
* `Link.mem_unanswered_run` — what waits carries the time of its send, however often it was
  written again.
* `Link.writes_round` — a round writes what it keeps, in order, up to the first failure.
* `Link.Paced` — the clock never goes back, and rounds begin at least an interval apart.
* `Link.rewrites_run` — so a message is written again only while it is young, and not too often.
-/

namespace Link

variable {ω : Type} [Endpoint ω]

/-! ### Steps in time -/

/-- A step of a run: when it began, and its event. -/
structure Moment where
  clock : Nat
  event : Event

/-- The moment of a step. -/
def moment (l : Link ω) (s : Step ω) : Moment := ⟨Endpoint.now l.world, l.event s⟩

/-- The moments of steps one after the other. -/
def timeline (l : Link ω) : List (Step ω) → List Moment
  | [] => []
  | s :: steps => l.moment s :: (l.take s).timeline steps

/-- A timeline is the history with the clock beside it. -/
theorem map_event_timeline (l : Link ω) (steps : List (Step ω)) :
    (l.timeline steps).map (·.event) = l.history steps := by
  induction steps generalizing l with
  | nil => rfl
  | cons s steps ih =>
    rw [timeline, List.map_cons, ih]
    rfl

theorem timeline_append_singleton (l : Link ω) (steps : List (Step ω)) (s : Step ω) :
    l.timeline (steps ++ [s]) = l.timeline steps ++ [(l.run steps).moment s] := by
  induction steps generalizing l with
  | nil => rfl
  | cons t steps ih =>
    rw [List.cons_append, timeline, ih]
    rfl

/-- A moment is that of a step after the steps before it. -/
theorem exists_of_timeline_eq {l : Link ω} {steps : List (Step ω)} {before after : List Moment}
    {x : Moment} (h : l.timeline steps = before ++ x :: after) :
    ∃ earlier s, l.timeline earlier = before ∧ x = (l.run earlier).moment s := by
  induction steps generalizing l before with
  | nil => simp [timeline] at h
  | cons s steps ih =>
    cases before with
    | nil => exact ⟨[], s, rfl, (List.cons.inj h).1.symm⟩
    | cons y before =>
      obtain ⟨hy, hrest⟩ := List.cons.inj h
      obtain ⟨earlier, t, hbefore, hx⟩ := ih hrest
      refine ⟨s :: earlier, t, ?_, hx⟩
      rw [timeline, hbefore, hy]

/-! ### What a round writes -/

/-- After a write that failed no connection is open. -/
theorem connection_writeFrame_of_error {l : Link ω} {frame reason : String}
    (h : (l.writeFrame frame).1 = .error reason) : (l.writeFrame frame).2.connection = none := by
  have hconnected := connection_ensureConnected l
  rw [writeFrame] at h ⊢
  rcases hanswer : l.ensureConnected with ⟨_ | generation, l'⟩
  · rwa [hanswer] at hconnected
  · rw [hanswer] at h hconnected
    simp only at h ⊢
    rcases hwrite : Endpoint.write l'.world generation (Utf8.encode frame) with ⟨_ | _, world⟩
    · have hopen : l'.connection = some generation := hconnected
      simp only [dropConnection, if_pos hopen]
    · rw [hwrite] at h
      cases h

/-- Frames that wait are written in their order, and none after one that failed.  If some were not
    written, or not whole, no connection is left. -/
theorem writes_writeAgain_of_contains {frames : List (Nat × String)} {l : Link (Recorded ω)}
    (h : ∀ p ∈ frames, l.unanswered.contains p.1 = true) :
    ∃ ws written rest, (writeAgain frames l).world.writes = l.world.writes ++ ws ∧
      frames = written ++ rest ∧
      ws.map (·.bytes) = written.map (fun p => Utf8.encode p.2) ∧
      (ws.Pairwise fun w _ => w.isDone = true) ∧
      (rest = [] ∧ (∀ w ∈ ws, w.isDone = true) ∨ (writeAgain frames l).connection = none) := by
  induction frames generalizing l with
  | nil =>
    exact ⟨[], [], [], (List.append_nil _).symm, rfl, rfl, .nil, .inl ⟨rfl, by simp⟩⟩
  | cons p frames ih =>
    obtain ⟨id, frame⟩ := p
    obtain ⟨hid, hframes⟩ := List.forall_mem_cons.1 h
    rw [writeAgain, if_pos hid]
    obtain ⟨ws, hws, honce⟩ := writes_writeFrame l frame
    have hledger := ledger_writeFrame l frame
    have hbroken : ∀ reason, (l.writeFrame frame).1 = .error reason →
        (l.writeFrame frame).2.connection = none := fun _ => connection_writeFrame_of_error
    rcases hwrite : l.writeFrame frame with ⟨answer, l'⟩
    rw [hwrite] at hws honce hledger hbroken
    -- A frame that was written is followed by the rest; any other outcome ends the round.
    cases honce with
    | done generation u =>
      have hunanswered : l'.unanswered = l.unanswered := congrArg Ledger.unanswered hledger
      obtain ⟨ws', written, rest, hws', hsplit, hbytes, hpairwise, hend⟩ :=
        ih (l := { l' with counted := l'.counted.countResent })
          (fun p hp => by rw [hunanswered]; exact hframes p hp)
      refine ⟨⟨generation, Utf8.encode frame, .ok u⟩ :: ws', (id, frame) :: written, rest, ?_,
        by rw [hsplit]; rfl, by rw [List.map_cons, hbytes]; rfl,
        List.pairwise_cons.2 ⟨fun _ _ => rfl, hpairwise⟩, ?_⟩
      · exact hws'.trans (by rw [hws, List.append_assoc, List.singleton_append])
      · rcases hend with ⟨hrest, hdone⟩ | hclosed
        · exact .inl ⟨hrest, List.forall_mem_cons.2 ⟨rfl, hdone⟩⟩
        · exact .inr hclosed
    | broken generation reason =>
      exact ⟨_, [(id, frame)], frames, hws, rfl, rfl, List.pairwise_singleton _ _,
        .inr (hbroken reason rfl)⟩
    | unconnected reason => exact ⟨[], [], _, hws, rfl, rfl, .nil, .inr (hbroken reason rfl)⟩

/-- **A round** keeps what is not too old, and writes it in order up to the first failure. -/
theorem writes_round {l : Link ω} {timeout : Nat} (h : l.settings.ackTimeout = some timeout) :
    (l.take .round).unanswered = l.kept timeout ∧
    ∃ written rest, (l.kept timeout).entries = written ++ rest ∧
      (l.event .round).writes.map (·.bytes) = written.map (fun e => Utf8.encode e.frame) ∧
      ((l.event .round).writes.Pairwise fun w _ => w.isDone = true) ∧
      (rest = [] ∧ (∀ w ∈ (l.event .round).writes, w.isDone = true) ∨
        (l.take .round).connection = none) := by
  -- The link with a log does the same, and its log tells the writes.
  have hbare : (l.recorded.take .round).bare = l.take .round := bare_take l .round
  have hround := resendRound_of_some (l := l.recorded) h
  have hkept : l.recorded.kept timeout = l.kept timeout := rfl
  rw [hkept] at hround
  obtain ⟨_, _, _, hledger⟩ := writes_writeAgain (l.kept timeout).snapshot
    { l.recorded with unanswered := l.kept timeout }
  have hwaits : ∀ p ∈ (l.kept timeout).snapshot, (l.kept timeout).contains p.1 = true := by
    intro p hp
    obtain ⟨e, he, hid, -⟩ := PendingFrames.mem_snapshot.1 hp
    exact PendingFrames.contains_iff.2 ⟨e, he, hid⟩
  obtain ⟨ws, pairs, others, hws, hsplit, hbytes, hpairwise, hend⟩ :=
    writes_writeAgain_of_contains (l := { l.recorded with unanswered := l.kept timeout }) hwaits
  rw [← hround] at hledger hws hend
  obtain ⟨written, rest, hentries, rfl, rfl⟩ := List.map_eq_append_iff.1 hsplit
  have hevent : (l.event .round).writes = ws := hws
  rw [hevent, ← hbare]
  refine ⟨congrArg Ledger.unanswered hledger, written, rest, hentries, ?_, hpairwise, ?_⟩
  · rw [hbytes, List.map_map]
    rfl
  · exact hend.imp_left fun ⟨hrest, hdone⟩ => ⟨List.map_eq_nil_iff.1 hrest, hdone⟩

/-! ### The time of a send -/

/-- A send that succeeds leaves its message waiting since the time at which it began. -/
theorem unanswered_send {l : Link ω} {timeout : Nat} (h : l.settings.ackTimeout = some timeout)
    (hopen : ¬ l.isStopped = true) (source payload : String) :
    let m : Message := ⟨source, l.nextId, payload⟩
    let sent := l.unanswered.insert m.id m.frame (Endpoint.now l.world)
    (∃ u, (l.send source payload).1 = .ok u) ∧ (l.send source payload).2.unanswered = sent ∨
      (l.send source payload).2.unanswered = (sent.remove m.id).2 := by
  intro m sent
  have hledger := (ledger_writeFrame (l.prepared m) m.frame).trans
    (ledger_prepared (by rw [h]; rfl) m)
  have hsent : ((l.prepared m).writeFrame m.frame).2.unanswered = sent :=
    congrArg Ledger.unanswered hledger
  rw [send_of_isOpen hopen]
  rcases hwrite : (l.prepared m).writeFrame m.frame with ⟨reason | u, l'⟩
  · rw [hwrite] at hsent
    refine .inr ?_
    show (l'.unanswered.remove m.id).2 = _
    rw [hsent]
  · rw [hwrite] at hsent
    exact .inl ⟨⟨(), rfl⟩, hsent⟩

/-- What a step leaves waiting has been waiting, or is what the step has sent. -/
theorem mem_unanswered_take {l : Link ω} {timeout : Nat}
    (h : l.settings.ackTimeout = some timeout) {s : Step ω} {e : PendingFrame}
    (he : e ∈ (l.take s).unanswered.entries) :
    e ∈ l.unanswered.entries ∨
      ∃ m, (l.moment s).event.deed = .sent m ∧ e = ⟨m.id, m.frame, (l.moment s).clock⟩ := by
  -- A step that does not touch the ledger leaves what waits.
  have hsame : ∀ l' : Link ω, l'.ledger = l.ledger → e ∈ l'.unanswered.entries →
      e ∈ l.unanswered.entries := by
    intro l' hledger he
    have hunanswered : l'.unanswered = l.unanswered := congrArg Ledger.unanswered hledger
    rwa [hunanswered] at he
  cases s with
  | send source payload =>
    by_cases hstopped : l.isStopped = true
    · rw [take, send_of_isStopped hstopped] at he
      exact .inl he
    · rw [take] at he
      rcases unanswered_send h hstopped source payload with ⟨⟨u, hok⟩, hsent⟩ | hfailed
      · rw [hsent] at he
        rcases (PendingFrames.mem_place_iff l.unanswered.sorted).1 he with rfl | ⟨he, -⟩
        · refine .inr ⟨⟨source, l.nextId, payload⟩, ?_, rfl⟩
          show l.deed (.send source payload) = _
          rw [deed, hok]
        · exact .inl he
      · -- A send that fails takes its own entry out again.
        rw [hfailed] at he
        obtain ⟨he, hne⟩ := List.mem_filter.1 he
        rcases (PendingFrames.mem_place_iff l.unanswered.sorted).1 he with rfl | ⟨he, -⟩
        · exact absurd rfl (bne_iff_ne.1 hne)
        · exact .inl he
  | ack line =>
    rw [take] at he
    cases hparse : Ack.parse? line with
    | none =>
      rw [handleAckLine_of_none hparse] at he
      exact .inl he
    | some ack =>
      rw [handleAckLine_of_some hparse] at he
      exact .inl (List.mem_filter.1 he).1
  | round =>
    rw [(writes_round h).1] at he
    exact .inl (PendingFrames.mem_evictExpired.1 he).1
  | drop generation => exact .inl (hsame _ (ledger_dropConnection l generation) he)
  | close => exact .inl (hsame _ (ledger_stop l) he)
  | elsewhere world => exact .inl he

/-- **What waits carries the time of its send,** whatever happened since. -/
theorem mem_unanswered_run {l : Link ω} {timeout : Nat}
    (h : l.settings.ackTimeout = some timeout) (hnone : l.unanswered.entries = [])
    {steps : List (Step ω)} {e : PendingFrame} (he : e ∈ (l.run steps).unanswered.entries) :
    ∃ x ∈ l.timeline steps, ∃ m, x.event.deed = .sent m ∧ e = ⟨m.id, m.frame, x.clock⟩ := by
  induction steps using List.reverseRecOn with
  | nil =>
    have hnever : e ∈ l.unanswered.entries := he
    rw [hnone] at hnever
    exact absurd hnever List.not_mem_nil
  | append_singleton steps s ih =>
    rw [run_append_singleton] at he
    rw [timeline_append_singleton]
    rcases mem_unanswered_take (ackTimeout_run h steps) he with he | ⟨m, hdeed, he⟩
    · obtain ⟨x, hx, hm⟩ := ih he
      exact ⟨x, List.mem_append_left _ hx, hm⟩
    · exact ⟨_, List.mem_append_right _ (List.mem_singleton_self _), m, hdeed, he⟩

/-! ### Rounds of a run -/

section Rounds

variable {start : Link ω} {timeout : Nat} (h : start.settings.ackTimeout = some timeout)
  (hnone : start.unanswered.entries = [])

include h hnone

/-- What a round writes was sent, and not more than the timeout ago. -/
theorem exists_sent_of_mem_writes {steps : List (Step ω)} {w : Write}
    (hw : w ∈ ((start.run steps).event .round).writes) :
    ∃ x ∈ start.timeline steps, ∃ m, x.event.deed = .sent m ∧ w.bytes = Utf8.encode m.frame ∧
      Endpoint.now (start.run steps).world ≤ x.clock + timeout := by
  obtain ⟨-, written, rest, hsplit, hbytes, -, -⟩ := writes_round (ackTimeout_run h steps)
  obtain ⟨e, he, hbytes⟩ := List.mem_map.1 (hbytes ▸ List.mem_map_of_mem hw)
  have hkept : e ∈ ((start.run steps).kept timeout).entries := hsplit ▸ List.mem_append_left _ he
  obtain ⟨he, hyoung⟩ := PendingFrames.mem_evictExpired.1 hkept
  obtain ⟨x, hx, m, hdeed, rfl⟩ := mem_unanswered_run h hnone he
  exact ⟨x, hx, m, hdeed, hbytes.symm, hyoung⟩

/-- A round writes no frame twice. -/
theorem nodup_writes_round (steps : List (Step ω)) :
    (((start.run steps).event .round).writes.map (·.bytes)).Nodup := by
  obtain ⟨-, written, rest, hsplit, hbytes, -, -⟩ := writes_round (ackTimeout_run h steps)
  have hkept : ∀ e ∈ written, e ∈ ((start.run steps).kept timeout).entries := fun e he =>
    hsplit ▸ List.mem_append_left _ he
  have hnodup : written.Nodup := by
    have hsorted := ((start.run steps).kept timeout).sorted
    rw [hsplit] at hsorted
    exact (List.pairwise_append.1 hsorted).1.imp fun hlt heq => Nat.ne_of_lt hlt (congrArg _ heq)
  rw [hbytes]
  refine hnodup.map_on fun e he f hf heq => ?_
  obtain ⟨x, -, m, -, hm⟩ :=
    mem_unanswered_run h hnone (PendingFrames.mem_evictExpired.1 (hkept e he)).1
  obtain ⟨y, -, n, -, hn⟩ :=
    mem_unanswered_run h hnone (PendingFrames.mem_evictExpired.1 (hkept f hf)).1
  -- Frames with the same bytes are those of one message, and so of one number.
  rw [hm, hn] at heq
  have hid : e.id = f.id := by
    rw [hm, hn]
    exact congrArg Message.id (Message.encode_frame_inj heq)
  exact PendingFrames.inj_id _ (hkept e he) (hkept f hf) hid

end Rounds

/-- Each message is sent once. -/
theorem Faithful.sent_unique {l : Link ω} {steps : List (Step ω)} {a : Ledger}
    (hf : Faithful (l.history steps) a) {x y : Moment} (hx : x ∈ l.timeline steps)
    (hy : y ∈ l.timeline steps) {m : Message} (hxm : x.event.deed = .sent m)
    (hym : y.event.deed = .sent m) : x = y := by
  obtain ⟨before, after, hsplit⟩ := List.append_of_mem hx
  have hsent : ∀ {z : Moment} {zs : List Moment}, z ∈ zs → z.event.deed = .sent m →
      m ∈ messages (zs.map (·.event)) := fun hz hzm =>
    List.mem_filterMap.2 ⟨_, List.mem_map_of_mem hz, by rw [hzm]; rfl⟩
  rw [hsplit, List.mem_append, List.mem_cons] at hy
  rw [← map_event_timeline, hsplit] at hf
  rcases hy with hy | rfl | hy
  · rw [List.map_append] at hf
    exact absurd rfl (hf.id_ne (hsent hy hym) (hsent List.mem_cons_self hxm))
  · rfl
  · rw [List.append_cons, List.map_append] at hf
    exact absurd rfl (hf.id_ne (hsent (List.mem_append_right _ (List.mem_singleton_self x)) hxm)
      (hsent hy hym))

/-- Only a round writes again. -/
theorem rewrites_event (l : Link ω) (s : Step ω) :
    (l.event s).rewrites = [] ∨ s = .round ∧ (l.event s).rewrites = (l.event s).writes := by
  cases s with
  | send source payload =>
    refine .inl ?_
    simp only [Event.rewrites, event, deed]
    rcases (l.send source payload).1 with ⟨_ | _⟩ | _ <;> rfl
  | ack line =>
    refine .inl ?_
    simp only [Event.rewrites, event, deed]
    cases Ack.parse? line <;> rfl
  | round =>
    simp only [Event.rewrites, event, deed]
    cases l.settings.ackTimeout with
    | none => exact .inl rfl
    | some timeout => exact .inr ⟨trivial, rfl⟩
  | drop generation => exact .inl rfl
  | close => exact .inl rfl
  | elsewhere world => exact .inl rfl

/-! ### How often -/

/-- The deed is a round. -/
def Deed.isRound : Deed → Bool
  | .round _ => true
  | _ => false

/-- The clock never goes back, and a round begins an interval after the last one or later. -/
structure Paced (interval : Nat) (moments : List Moment) : Prop where
  clock : moments.Pairwise fun x y => x.clock ≤ y.clock
  rounds : moments.Pairwise fun x y =>
    x.event.deed.isRound = true → y.event.deed.isRound = true → x.clock + interval ≤ y.clock

/-- Times at least an interval apart, within a span, are not many. -/
theorem length_le_of_spaced {interval low span : Nat} (hpos : 0 < interval) {times : List Nat}
    (hspaced : times.Pairwise fun s t => s + interval ≤ t) (hlow : ∀ t ∈ times, low ≤ t)
    (hhigh : ∀ t ∈ times, t ≤ low + span) : times.length ≤ span / interval + 1 := by
  have hlast : ∀ (ts : List Nat) (t high : Nat), (t :: ts).Pairwise (fun s t => s + interval ≤ t) →
      (∀ u ∈ t :: ts, u ≤ high) → t + ts.length * interval ≤ high := by
    intro ts
    induction ts with
    | nil =>
      intro t high _ hle
      simpa using hle t (List.mem_singleton_self t)
    | cons u ts ih =>
      intro t high hts hle
      obtain ⟨hfirst, hts⟩ := List.pairwise_cons.1 hts
      have hstep := hfirst u List.mem_cons_self
      have hrest := ih u high hts fun v hv => hle v (List.mem_cons_of_mem _ hv)
      rw [List.length_cons, Nat.add_mul, Nat.one_mul]
      omega
  cases times with
  | nil => exact Nat.zero_le _
  | cons t ts =>
    have hle := hlast ts t (low + span) hspaced hhigh
    have hfirst := hlow t List.mem_cons_self
    rw [List.length_cons, Nat.add_le_add_iff_right, Nat.le_div_iff_mul_le hpos]
    omega

/-- What each part holds at most once, the whole holds at most as often as parts hold it. -/
theorem countP_flatMap_le {α β : Type} {f : α → List β} {p : β → Bool} {xs : List α}
    (h : ∀ x ∈ xs, (f x).countP p ≤ 1) :
    (xs.flatMap f).countP p ≤ (xs.filter fun x => (f x).any p).length := by
  induction xs with
  | nil => exact Nat.le_refl _
  | cons x xs ih =>
    obtain ⟨hx, hxs⟩ := List.forall_mem_cons.1 h
    rw [List.flatMap_cons, List.countP_append, List.filter_cons]
    split
    · rw [List.length_cons]
      have := ih hxs
      omega
    · rename_i hany
      have hnone : (f x).countP p = 0 := by
        rw [List.countP_eq_zero]
        intro b hb hp
        exact hany (List.any_eq_true.2 ⟨b, hb, hp⟩)
      rw [hnone, Nat.zero_add]
      exact ih hxs

section Rounds

variable {start : Link ω} {timeout : Nat} (h : start.settings.ackTimeout = some timeout)
  (hnone : start.unanswered.entries = []) {steps : List (Step ω)}

include h hnone

/-- No moment writes a frame again twice. -/
theorem countP_rewrites_le_one {x : Moment} (hx : x ∈ start.timeline steps) (m : Message) :
    x.event.rewrites.countP (·.bytes == Utf8.encode m.frame) ≤ 1 := by
  obtain ⟨before, after, hsplit⟩ := List.append_of_mem hx
  obtain ⟨earlier, s, -, rfl⟩ := exists_of_timeline_eq hsplit
  rcases rewrites_event (start.run earlier) s with hempty | ⟨rfl, hwrites⟩
  · rw [moment, hempty]
    exact Nat.zero_le _
  · have hcount := List.nodup_iff_count_le_one.1 (nodup_writes_round h hnone earlier)
      (Utf8.encode m.frame)
    rw [moment, hwrites]
    rwa [List.count, List.countP_map] at hcount

/-- What is written again was sent before, and not more than the timeout ago. -/
theorem exists_sent_of_mem_rewrites {before after : List Moment} {x : Moment}
    (hsplit : start.timeline steps = before ++ x :: after) {w : Write}
    (hw : w ∈ x.event.rewrites) :
    x.event.deed.isRound = true ∧ ∃ y ∈ before, ∃ m, y.event.deed = .sent m ∧
      w.bytes = Utf8.encode m.frame ∧ x.clock ≤ y.clock + timeout := by
  obtain ⟨earlier, s, rfl, rfl⟩ := exists_of_timeline_eq hsplit
  rcases rewrites_event (start.run earlier) s with hempty | ⟨rfl, hwrites⟩
  · rw [moment, hempty] at hw
    exact absurd hw List.not_mem_nil
  · rw [moment, hwrites] at hw
    refine ⟨?_, exists_sent_of_mem_writes h hnone hw⟩
    show ((start.run earlier).deed .round).isRound = true
    simp only [deed, ackTimeout_run h earlier]
    rfl

/-- **A message is written again once for each interval in the timeout,** and once more. -/
theorem countP_rewrites_le {interval : Nat} {a : Ledger}
    (hf : Faithful (start.history steps) a)
    (hpos : 0 < interval) (hpaced : Paced interval (start.timeline steps)) (m : Message) :
    ((start.timeline steps).flatMap (·.event.rewrites)).countP
      (·.bytes == Utf8.encode m.frame) ≤ timeout / interval + 1 := by
  let again : List Moment := (start.timeline steps).filter
    fun x => x.event.rewrites.any (·.bytes == Utf8.encode m.frame)
  have hcount : ((start.timeline steps).flatMap (·.event.rewrites)).countP
      (·.bytes == Utf8.encode m.frame) ≤ again.length :=
    countP_flatMap_le fun x hx => countP_rewrites_le_one h hnone hx m
  have hagain : ∀ x ∈ again, x.event.deed.isRound = true ∧ ∃ y ∈ start.timeline steps,
      y.event.deed = .sent m ∧ y.clock ≤ x.clock ∧ x.clock ≤ y.clock + timeout := by
    intro x hx
    obtain ⟨hx, hany⟩ := List.mem_filter.1 hx
    obtain ⟨w, hw, hbytes⟩ := List.any_eq_true.1 hany
    obtain ⟨before, after, hsplit⟩ := List.append_of_mem hx
    obtain ⟨hround, y, hy, n, hsent, hn, hyoung⟩ :=
      exists_sent_of_mem_rewrites h hnone hsplit hw
    obtain rfl : m = n := Message.encode_frame_inj ((eq_of_beq hbytes).symm.trans hn)
    have hclock := hpaced.clock
    rw [hsplit] at hclock
    have hbefore := (List.pairwise_append.1 hclock).2.2 y hy x List.mem_cons_self
    exact ⟨hround, y, hsplit ▸ List.mem_append_left _ hy, hsent, hbefore, hyoung⟩
  refine Nat.le_trans hcount ?_
  show again.length ≤ timeout / interval + 1
  rcases hcase : again with _ | ⟨x, rest⟩
  · exact Nat.zero_le _
  · rw [← hcase]
    -- The message was sent once, so its time is the same for all of them.
    obtain ⟨-, y, hy, hsent, -, -⟩ := hagain x (hcase ▸ List.mem_cons_self)
    have hsame : ∀ z ∈ again, y.clock ≤ z.clock ∧ z.clock ≤ y.clock + timeout := by
      intro z hz
      obtain ⟨-, y', hy', hsent', hlow, hhigh⟩ := hagain z hz
      obtain rfl := hf.sent_unique hy hy' hsent hsent'
      exact ⟨hlow, hhigh⟩
    have hspaced : (again.map (·.clock)).Pairwise fun s t => s + interval ≤ t :=
      List.pairwise_map.2 ((hpaced.rounds.filter _).imp_of_mem fun hs ht hst =>
        hst (hagain _ hs).1 (hagain _ ht).1)
    have hlength := length_le_of_spaced hpos hspaced
      (List.forall_mem_map.2 fun z hz => (hsame z hz).1)
      (List.forall_mem_map.2 fun z hz => (hsame z hz).2)
    rwa [List.length_map] at hlength

end Rounds

/-- **Sending again.** Let a new link await acknowledgements for `timeout`, let anything happen to
    it in any order, and let a round begin.

    What waits then carries the frame that its send has written, and the time at which that send
    began.  The round keeps, unchanged, exactly what was not sent more than the timeout ago.  Of
    this it writes frames in strictly ascending order of their numbers, and none after a write that
    failed; if it does not write all of them it has lost its connection.  A message that was sent
    more than the timeout ago is not written.

    So when the clock never goes back, and the rounds so far began at least an interval apart, no
    message was written again more often than the interval fits into the timeout, and once more. -/
theorem rewrites_run (world : ω) (settings : Settings) (timeout interval : Nat)
    (steps : List (Step ω)) :
    let start : Link ω :=
      { world := world
        settings := { settings with ackTimeout := some timeout, resendInterval := interval } }
    let moments := start.timeline steps
    let l := start.run steps
    let now := Endpoint.now l.world
    let writes := (l.event .round).writes
    let after := l.take .round
    (∀ e ∈ l.unanswered.entries, ∃ x ∈ moments, ∃ m generation u,
      x.event = ⟨.sent m, [⟨generation, Utf8.encode m.frame, .ok u⟩]⟩ ∧
        e = ⟨m.id, m.frame, x.clock⟩) ∧
    (∀ e, e ∈ after.unanswered.entries ↔ e ∈ l.unanswered.entries ∧ now ≤ e.sentAt + timeout) ∧
    (∃ written rest, after.unanswered.entries = written ++ rest ∧
      (written.Pairwise fun e f => e.id < f.id) ∧
      writes.map (·.bytes) = written.map (fun e => Utf8.encode e.frame) ∧
      (writes.Pairwise fun w _ => w.isDone = true) ∧
      (rest = [] ∧ (∀ w ∈ writes, w.isDone = true) ∨ after.connection = none)) ∧
    (∀ x ∈ moments, ∀ m, x.event.deed = .sent m → x.clock + timeout < now →
      ∀ w ∈ writes, w.bytes ≠ Utf8.encode m.frame) ∧
    (0 < interval → Paced interval moments → ∀ m : Message,
      (moments.flatMap (·.event.rewrites)).countP (·.bytes == Utf8.encode m.frame) ≤
        timeout / interval + 1) := by
  intro start moments l now writes after
  have hf : Faithful (start.history steps) l.ledger := faithful_run rfl (faithful_start _ _) steps
  have htimeout : start.settings.ackTimeout = some timeout := rfl
  have hnone : start.unanswered.entries = [] := rfl
  obtain ⟨hunanswered, written, rest, hsplit, hbytes, hpairwise, hend⟩ :=
      writes_round (ackTimeout_run htimeout steps)
  refine ⟨?_, ?_, ⟨written, rest, ?_, ?_, hbytes, hpairwise, hend⟩, ?_, ?_⟩
  · intro e he
    obtain ⟨x, hx, m, hsent, heq⟩ := mem_unanswered_run htimeout hnone he
    have hevent : x.event ∈ start.history steps :=
      map_event_timeline start steps ▸ List.mem_map_of_mem hx
    obtain ⟨generation, u, hwrites⟩ := hf.sent _ hevent m hsent
    exact ⟨x, hx, m, generation, u, by rw [← hsent, ← hwrites], heq⟩
  · intro e
    show e ∈ (l.take .round).unanswered.entries ↔ _
    rw [hunanswered]
    exact PendingFrames.mem_evictExpired
  · rw [← hsplit, ← hunanswered]
  · have hsorted := (l.kept timeout).sorted
    rw [hsplit] at hsorted
    exact (List.pairwise_append.1 hsorted).1
  · -- What was written was sent within the timeout, and no other send has its number.
    intro x hx m hsent hold w hw heq
    obtain ⟨y, hy, n, hsent', hn, hyoung⟩ := exists_sent_of_mem_writes htimeout hnone hw
    obtain rfl : m = n := Message.encode_frame_inj (heq.symm.trans hn)
    obtain rfl := hf.sent_unique hx hy hsent hsent'
    exact absurd hyoung (Nat.not_le.2 hold)
  · exact fun hpos hpaced m => countP_rewrites_le htimeout hnone hf hpos hpaced m

/-- A message that is not acknowledged, while rounds begin as often as the interval allows: it is
    written again as often as it may be. -/
theorem rewrites_run_often :
    let agent : Nat → Agent := fun clock =>
      { clock := clock, file := .listening, accepted := 1, newest := some { generation := 1 } }
    let start : Link Agent :=
      { world := { file := .listening }
        settings := { socketPath := "agent", ackTimeout := some 8, resendInterval := 4 } }
    let moments := start.timeline [.send "s" "x", .round, .elsewhere (agent 4), .round,
      .elsewhere (agent 8), .round, .elsewhere (agent 12), .round]
    let m : Message := ⟨"s", 1, "x"⟩
    0 < 4 ∧ Paced 4 moments ∧
      (moments.flatMap (·.event.rewrites)).countP (·.bytes == Utf8.encode m.frame) ≤ 8 / 4 + 1 ∧
      3 ≤ (moments.flatMap (·.event.rewrites)).countP (·.bytes == Utf8.encode m.frame) := by
  intro agent start moments m
  have hpaced : Paced 4 moments := ⟨by decide +kernel, by decide +kernel⟩
  obtain ⟨-, -, -, -, hbound⟩ := rewrites_run ({ file := .listening } : Agent)
    { socketPath := "agent" } 8 4 [.send "s" "x", .round, .elsewhere (agent 4), .round,
      .elsewhere (agent 8), .round, .elsewhere (agent 12), .round]
  exact ⟨by decide, hpaced, hbound (by decide) hpaced m, by decide +kernel⟩

end Link

end Telemetry
