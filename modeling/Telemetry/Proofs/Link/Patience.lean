import Mathlib.Algebra.Order.Floor.Div
import Telemetry.Link.Agent
import Telemetry.Proofs.Link.Recording

namespace Telemetry

/-!
# Trying to connect

How often, and for how long, a link tries to connect when nobody listens.

* `Timed` — surroundings with a log of the attempts to connect and of the waits between them.
* `Endpoint.Steady` — the clock never goes back, and moves on by what is waited for at least; so
  does the clock of an agent (`Agent.steady`).
* `Link.min_le_reconnectDelay` — a wait is 100 ms at least, or all that is left of the budget.
* `Link.Patient` — what attempts and waits come to within a budget; kept by one more attempt
  before them (`Link.Patient.again`).
* `Link.connectWithRetry_patient` — so there are not many attempts, the waits fit into the budget,
  and nothing is given up before the budget is used up.
-/

/-! ### Surroundings with a log -/

/-- A wait, and the clock when it began. -/
structure Wait where
  clock : Nat
  delay : Nat

/-- Surroundings, with the outcomes of the attempts to connect and the waits so far. -/
structure Timed (ω : Type) where
  inner : ω
  outcomes : List (Except String Unit) := []
  waits : List Wait := []

variable {ω : Type} [Endpoint ω]

instance : Endpoint (Timed ω) where
  now w := Endpoint.now w.inner
  pause w delay :=
    ⟨Endpoint.pause w.inner delay, w.outcomes, w.waits ++ [⟨Endpoint.now w.inner, delay⟩]⟩
  connect w path generation :=
    let (outcome, inner) := Endpoint.connect w.inner path generation
    (outcome, ⟨inner, w.outcomes ++ [outcome], w.waits⟩)
  write w generation bytes :=
    let (outcome, inner) := Endpoint.write w.inner generation bytes
    (outcome, ⟨inner, w.outcomes, w.waits⟩)
  shutdown w generation := ⟨Endpoint.shutdown w.inner generation, w.outcomes, w.waits⟩

/-- The clock never goes back, and a wait is not shorter than it should be. -/
structure Endpoint.Steady (ω : Type) [Endpoint ω] : Prop where
  connect : ∀ (world : ω) (path : String) (generation : Nat),
    Endpoint.now world ≤ Endpoint.now (Endpoint.connect world path generation).2
  pause : ∀ (world : ω) (delay : Nat),
    Endpoint.now world + delay ≤ Endpoint.now (Endpoint.pause world delay)

/-- The clock of an agent moves on when it is told to, and never back. -/
theorem Agent.steady : Endpoint.Steady Agent where
  connect a path generation := by
    show a.clock ≤ (a.connect generation).2.clock
    unfold Agent.connect
    split <;> exact Nat.le_refl _
  pause a delay := by
    show a.clock + delay ≤ (a.advanceTo (a.clock + delay)).clock
    unfold Agent.advanceTo Agent.wakeUp
    split
    · split <;> exact Nat.le_max_right _ _
    · exact Nat.le_max_right _ _

namespace Link

/-- The link in the same surroundings, with an empty log. -/
def timed (l : Link ω) : Link (Timed ω) := l.inWorld { inner := l.world }

/-- The link without the log. -/
def untimed (l : Link (Timed ω)) : Link ω := l.through Timed.inner

/-- The surroundings without their log do what those with it do. -/
theorem mirrors_inner_timed : Mirrors (Timed.inner : Timed ω → ω) :=
  ⟨fun _ => rfl, fun _ _ => rfl, fun _ _ _ => rfl⟩

/-! ### One wait -/

/-- **A wait is no shorter than the shortest one,** unless it takes all that is left. -/
theorem min_le_reconnectDelay (attempt remaining : Nat) :
    min minReconnectDelay remaining ≤ reconnectDelay attempt remaining := by
  have hpow : 1 ≤ Nat.pow 2 (attempt % 10) := Nat.two_pow_pos _
  have hfactor : minReconnectDelay ≤ minReconnectDelay * Nat.pow 2 (attempt % 10) :=
    Nat.le_mul_of_pos_right _ hpow
  have hmax : minReconnectDelay ≤ maxReconnectDelay := by decide
  unfold reconnectDelay
  omega

/-- No wait is longer than the longest one. -/
theorem reconnectDelay_le_max (attempt remaining : Nat) :
    reconnectDelay attempt remaining ≤ maxReconnectDelay :=
  Nat.le_trans (Nat.min_le_left _ _) (Nat.min_le_right _ _)

/-- What is left after a wait needs one wait less. -/
theorem ceilDiv_sub_reconnectDelay_lt {left : Nat} (attempt : Nat) (hleft : 0 < left) :
    (left - reconnectDelay attempt left) ⌈/⌉ minReconnectDelay < left ⌈/⌉ minReconnectDelay := by
  have hmin : 0 < minReconnectDelay := by decide
  have hcover : left ≤ minReconnectDelay * (left ⌈/⌉ minReconnectDelay) := le_smul_ceilDiv hmin
  have hdelay := min_le_reconnectDelay attempt left
  obtain ⟨k, hk⟩ : ∃ k, left ⌈/⌉ minReconnectDelay = k + 1 :=
    Nat.exists_eq_add_one.2 (Nat.pos_of_ne_zero fun h => by rw [h] at hcover; omega)
  rw [hk, Nat.lt_succ_iff, ceilDiv_le_iff_le_mul hmin]
  rw [hk, Nat.mul_add, Nat.mul_one] at hcover
  omega

/-! ### Attempts and waits within a budget -/

/-- What trying comes to, from some attempt on, if that attempt begins when at least `spent` of
    the budget has gone by since `start`; `clock` is the time of the end. -/
structure Patient (budget start spent : Nat) (outcomes : List (Except String Unit))
    (waits : List Wait) (answer : Except String Nat) (clock : Nat) : Prop where
  length_eq : outcomes.length = waits.length + 1
  length_le : waits.length ≤ (budget - spent) ⌈/⌉ minReconnectDelay
  waits_bounds : ∀ w ∈ waits, w.clock - start < budget ∧ 0 < w.delay ∧
    w.delay ≤ maxReconnectDelay ∧ w.delay ≤ budget - (w.clock - start)
  sum_le : (waits.map (·.delay)).sum ≤ budget - spent
  given_up : (∀ o ∈ outcomes, o.isOk = false) →
    (∃ reason, answer = .error reason) ∧ budget ≤ clock - start

namespace Patient

variable {budget start spent : Nat}

/-- Once connected, nothing is waited for. -/
theorem connected (generation clock : Nat) (u : Unit) :
    Patient budget start spent [.ok u] [] (.ok generation) clock where
  length_eq := rfl
  length_le := Nat.zero_le _
  waits_bounds _ hw := absurd hw List.not_mem_nil
  sum_le := Nat.zero_le _
  given_up h := absurd (h _ (List.mem_singleton_self _)) Bool.true_eq_false.mp

/-- With the budget gone, a failed attempt is the last one. -/
theorem gaveUp (reason : String) {clock : Nat} (h : budget ≤ clock - start) :
    Patient budget start spent [.error reason] [] (.error reason) clock where
  length_eq := rfl
  length_le := Nat.zero_le _
  waits_bounds _ hw := absurd hw List.not_mem_nil
  sum_le := Nat.zero_le _
  given_up _ := ⟨⟨reason, rfl⟩, h⟩

/-- **One more attempt** that fails, with the wait after it, comes before the others. -/
theorem again {now elapsed attempt clock : Nat} {outcomes : List (Except String Unit)}
    {waits : List Wait} {answer : Except String Nat} (reason : String)
    (helapsed : elapsed = now - start) (hspent : spent ≤ elapsed) (hleft : elapsed < budget)
    (h : Patient budget start (elapsed + reconnectDelay attempt (budget - elapsed)) outcomes waits
      answer clock) :
    Patient budget start spent (.error reason :: outcomes)
      (⟨now, reconnectDelay attempt (budget - elapsed)⟩ :: waits) answer clock := by
  have hpos : 0 < budget - elapsed := Nat.sub_pos_of_lt hleft
  have hdelay := reconnectDelay_le attempt (budget - elapsed)
  refine ⟨?_, ?_, ?_, ?_, ?_⟩
  · rw [List.length_cons, List.length_cons, h.length_eq]
  · have hrest := h.length_le
    rw [← Nat.sub_sub] at hrest
    -- A wait shortens what is left of the budget by one shortest wait, or ends it.
    have hless := ceilDiv_sub_reconnectDelay_lt attempt hpos
    have hmono : (budget - elapsed) ⌈/⌉ minReconnectDelay ≤
        (budget - spent) ⌈/⌉ minReconnectDelay :=
      (gc_smul_ceilDiv (by decide)).monotone_l (Nat.sub_le_sub_left hspent budget)
    rw [List.length_cons]
    omega
  · rw [List.forall_mem_cons, ← helapsed]
    exact ⟨⟨hleft, reconnectDelay_pos hpos, reconnectDelay_le_max _ _, hdelay⟩, h.waits_bounds⟩
  · have hsum := h.sum_le
    show reconnectDelay attempt (budget - elapsed) + (waits.map (·.delay)).sum ≤ _
    omega
  · exact fun hfailed => h.given_up fun o ho => hfailed o (List.mem_cons_of_mem _ ho)

end Patient

/-! ### Trying again and again -/

/-- One attempt leaves its outcome in the log, and the link open or stopped as it was. -/
theorem attempt_timed (hsteady : Endpoint.Steady ω) {l l' : Link (Timed ω)}
    {answer : Except String Nat} (h : l.attempt = (answer, l')) :
    l'.world.outcomes = l.world.outcomes ++ [answer.map fun _ => ()] ∧
      l'.world.waits = l.world.waits ∧ l'.attempts = l.attempts + 1 ∧
      l'.isStopped = l.isStopped ∧ Endpoint.now l.world ≤ Endpoint.now l'.world := by
  have hclock := hsteady.connect l.world.inner l.settings.socketPath (l.generation + 1)
  have hconnect : Endpoint.connect l.world l.settings.socketPath (l.generation + 1) =
      let (outcome, inner) :=
        Endpoint.connect l.world.inner l.settings.socketPath (l.generation + 1)
      (outcome, ⟨inner, l.world.outcomes ++ [outcome], l.world.waits⟩) := rfl
  rw [attempt, hconnect] at h
  rcases hcase : Endpoint.connect l.world.inner l.settings.socketPath (l.generation + 1) with
    ⟨_ | _, world⟩
  all_goals
    rw [hcase] at h hclock
    obtain ⟨rfl, rfl⟩ := Prod.mk.inj h
    exact ⟨rfl, rfl, rfl, rfl, hclock⟩

/-- **Trying to connect is patient,** however much of the budget has gone by. -/
theorem patient_connectWithin (hsteady : Endpoint.Steady ω) (budget start spent : Nat)
    (l : Link (Timed ω)) (hopen : l.isStopped = false)
    (hspent : start + spent ≤ Endpoint.now l.world) :
    ∃ outcomes waits,
      (connectWithin budget start spent l).2.world.outcomes = l.world.outcomes ++ outcomes ∧
      (connectWithin budget start spent l).2.world.waits = l.world.waits ++ waits ∧
      (connectWithin budget start spent l).2.attempts = l.attempts + outcomes.length ∧
      Patient budget start spent outcomes waits (connectWithin budget start spent l).1
        (Endpoint.now (connectWithin budget start spent l).2.world) := by
  -- `spent` only makes the loop end whatever the clock does. A steady clock has moved on by that
  -- much, so the time that has gone by is read off the clock (`helapsed`).
  fun_induction connectWithin budget start spent l with
  | case1 spent l generation l' hattempt =>
    obtain ⟨houtcomes, hwaits, hattempts, -, -⟩ := attempt_timed hsteady hattempt
    exact ⟨_, [], houtcomes, by rw [hwaits, List.append_nil], hattempts, .connected _ _ _⟩
  | case2 spent l reason l' hattempt elapsed hstop =>
    obtain ⟨houtcomes, hwaits, hattempts, hstopped, hclock⟩ := attempt_timed hsteady hattempt
    have helapsed : elapsed = Endpoint.now l'.world - start := Nat.max_eq_right (by omega)
    rw [hstopped, hopen, Bool.false_or, decide_eq_true_eq, helapsed] at hstop
    exact ⟨_, [], houtcomes, by rw [hwaits, List.append_nil], hattempts, .gaveUp reason hstop⟩
  | case3 spent l reason l' hattempt elapsed hstop delay ih =>
    obtain ⟨houtcomes, hwaits, hattempts, hstopped, hclock⟩ := attempt_timed hsteady hattempt
    have helapsed : elapsed = Endpoint.now l'.world - start := Nat.max_eq_right (by omega)
    rw [hstopped, hopen, Bool.false_or, decide_eq_true_eq, Nat.not_le] at hstop
    have hpause : Endpoint.now l'.world + delay ≤ Endpoint.now (Endpoint.pause l'.world delay) :=
      hsteady.pause l'.world.inner delay
    obtain ⟨outcomes, waits, houtcomes', hwaits', hattempts', hpatient⟩ :=
      ih (hstopped.trans hopen) (Nat.le_trans (by omega) hpause)
    refine ⟨.error reason :: outcomes, ⟨Endpoint.now l'.world, delay⟩ :: waits, ?_, ?_, ?_, ?_⟩
    · rw [houtcomes', List.append_cons]
      exact congrArg (· ++ outcomes) houtcomes
    · rw [hwaits', List.append_cons]
      exact congrArg (· ++ [_] ++ waits) hwaits
    · rw [hattempts', List.length_cons]
      show l'.attempts + outcomes.length = _
      omega
    · exact hpatient.again reason helapsed (Nat.le_max_left _ _) hstop

/-- **Trying to connect.** Let the clock never go back, and move on by what is waited for at least,
    and let a link that is not stopped try to connect; `budget` is the time that its settings give.

    Each attempt raises the counter of attempts by one, and there are not more than one for each
    100 ms of the budget, begun ones included, and one more; without a budget there is one.  If all
    fail, the link gives up, and not before the budget has gone by.  Every wait begins while some
    of the budget is left; it is not empty and takes neither more than is left nor more than a
    minute, and all of them together fit into the budget. -/
theorem connectWithRetry_patient (hsteady : Endpoint.Steady ω) (l : Link ω)
    (hopen : l.isStopped = false) :
    let budget := l.settings.connRetryTimeout
    let start := Endpoint.now l.world
    let r := l.timed.connectWithRetry
    let outcomes := r.2.world.outcomes
    let waits := r.2.world.waits
    l.connectWithRetry = (r.1, r.2.untimed) ∧
    r.2.attempts = l.attempts + outcomes.length ∧
    outcomes.length ≤ budget ⌈/⌉ millis 100 + 1 ∧
    (budget = 0 → outcomes.length = 1) ∧
    ((∀ o ∈ outcomes, o.isOk = false) →
      (∃ reason, r.1 = .error reason) ∧ budget ≤ Endpoint.now r.2.world - start) ∧
    (∀ w ∈ waits, w.clock - start < budget ∧
      0 < w.delay ∧ w.delay ≤ millis 60000 ∧ w.delay ≤ budget - (w.clock - start)) ∧
    (waits.map (·.delay)).sum ≤ budget := by
  intro budget start r outcomes waits
  -- The log of `l.timed` is empty, so all that is in the log of `r` is new.
  obtain ⟨outcomes', waits', houtcomes, hwaits, hattempts, hpatient⟩ :=
    patient_connectWithin hsteady budget start 0 l.timed hopen (Nat.le_refl _)
  obtain rfl : outcomes = outcomes' := houtcomes
  obtain rfl : waits = waits' := hwaits
  refine ⟨?_, hattempts, ?_, ?_, hpatient.given_up, hpatient.waits_bounds, hpatient.sum_le⟩
  · exact mirrors_inner_timed.connectWithRetry l.timed
  · rw [hpatient.length_eq]
    exact Nat.succ_le_succ hpatient.length_le
  · intro hzero
    have hnone : waits.length ≤ 0 := by
      have hlength := hpatient.length_le
      rwa [hzero, Nat.zero_sub, zero_ceilDiv] at hlength
    rw [hpatient.length_eq, Nat.le_zero.1 hnone]

/-- An agent that begins to listen too late.  The tenth attempt is followed by the shortest wait,
    and so there are as many attempts as there may be. -/
theorem connectWithRetry_patient_late :
    let agent : Agent := { clock := millis 7, opensAt := some (millis 208) }
    let l : Link Agent :=
      { world := agent
        settings := { socketPath := "agent", connRetryTimeout := millis 200 }
        attempts := 9 }
    let r := l.timed.connectWithRetry
    Endpoint.Steady Agent ∧ l.isStopped = false ∧
      (∀ o ∈ r.2.world.outcomes, o.isOk = false) ∧ (∃ reason, r.1 = .error reason) ∧
      millis 200 ≤ Endpoint.now r.2.world - millis 7 ∧
      r.2.world.outcomes.length = 3 ∧ r.2.world.outcomes.length ≤ millis 200 ⌈/⌉ millis 100 + 1 ∧
      r.2.world.waits.map (·.delay) = [millis 100, millis 100] ∧
      (r.2.world.waits.map (·.delay)).sum ≤ millis 200 := by
  intro agent l r
  have hfailed : ∀ o ∈ r.2.world.outcomes, o.isOk = false := by decide +kernel
  obtain ⟨-, -, hlength, -, hgiven, -, hsum⟩ := connectWithRetry_patient Agent.steady l rfl
  obtain ⟨hanswer, hclock⟩ := hgiven hfailed
  exact ⟨Agent.steady, rfl, hfailed, hanswer, hclock, by decide +kernel, hlength,
    by decide +kernel, hsum⟩

end Link

end Telemetry
