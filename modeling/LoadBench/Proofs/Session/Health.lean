import LoadBench.Proofs.Loop
import LoadBench.Proofs.Service
import LoadBench.Session.Health
import Mathlib.Order.Monotone.Basic

namespace LoadBench.HealthGate

open Http

def answer (ch : Channel) (k : Nat) : Answer := ch.script .get (ch.served.get + k)

/-- When the `k`-th probe starts, if it is made. -/
def start (gate : HealthGate) (ch : Channel) : Nat → Instant
  | 0 => ch.now
  | k + 1 => start gate ch k + (answer ch k).delay + gate.pollInterval

def Succeeds (gate : HealthGate) (ch : Channel) (k : Nat) : Prop :=
  gate.start ch k < ch.now + gate.timeout ∧
    ∃ response, (answer ch k).reply = .ok response ∧ response.status = 200

def sent (gate : HealthGate) (ch : Channel) (n : Nat) : List Sent :=
  (List.range n).map fun k => ⟨gate.start ch k, .get gate.url gate.probeTimeout⟩

structure Probed (gate : HealthGate) (ch : Channel) (k : Nat) (later : Channel) : Prop where
  since : ch.Since (gate.sent ch k) later
  served : later.served.get = ch.served.get + k
  now : later.now = gate.start ch k

variable {gate : HealthGate} {ch later : Channel} {p ended : Probes} {k : Nat}

theorem isReady_outcome (a : Answer) (url : String) :
    isReady (a.outcome url) = true ↔
      ∃ response, a.reply = .ok response ∧ response.status = 200 := by
  rw [Answer.outcome]
  cases a.reply with
  | error cause => simp [isReady]
  | ok response => simp [isReady]

theorem sent_succ (gate : HealthGate) (ch : Channel) (k : Nat) :
    gate.sent ch (k + 1) = gate.sent ch k ++ [⟨gate.start ch k, gate.probe⟩] := by
  rw [sent, List.range_succ, List.map_append]
  rfl

theorem start_mono (gate : HealthGate) (ch : Channel) : Monotone (gate.start ch) := by
  refine monotone_nat_of_le_succ fun k => ?_
  rw [start, Nat.add_assoc]
  exact Nat.le_add_right _ _

theorem Probed.zero (gate : HealthGate) (ch : Channel) : Probed gate ch 0 ch where
  since := .refl ch
  served := rfl
  now := rfl

theorem Probed.answered (probed : Probed gate ch k later) :
    later.call gate.probe =
      ((answer ch k).outcome gate.url, (later.call gate.probe).2) := by
  rw [answer, ← probed.served, ← probed.since.script]
  rfl

theorem Probed.since_call (probed : Probed gate ch k later) :
    ch.Since (gate.sent ch (k + 1)) (later.call gate.probe).2 := by
  rw [sent_succ, ← probed.now]
  exact probed.since.trans (Channel.since_call gate.probe later)

theorem Probed.now_call (probed : Probed gate ch k later) :
    (later.call gate.probe).2.now = gate.start ch k + (answer ch k).delay := by
  rw [answer, ← probed.now, ← probed.served, ← probed.since.script]
  rfl

theorem Probed.succ (probed : Probed gate ch k later) :
    Probed gate ch (k + 1) ((later.call gate.probe).2.wait gate.pollInterval) where
  since := probed.since_call.atTime _
  served := congrArg (· + 1) probed.served
  now := by rw [start, ← probed.now_call]; rfl

/-- The first `k` probes have been made, all in time and in vain. -/
structure Fruitless (gate : HealthGate) (ch : Channel) (k : Nat) (p : Probes) : Prop where
  probed : Probed gate ch k p.channel
  silent : p.ready = false
  inTime : ∀ j < k, gate.start ch j < ch.now + gate.timeout
  missed : ∀ j < k, ¬ gate.Succeeds ch j

theorem Fruitless.begin (gate : HealthGate) (ch : Channel) : Fruitless gate ch 0 ⟨[], ch⟩ :=
  ⟨.zero gate ch, rfl, nofun, nofun⟩

structure Found (gate : HealthGate) (ch : Channel) (k : Nat) (p : Probes) : Prop where
  succeeds : gate.Succeeds ch k
  first : ∀ j < k, ¬ gate.Succeeds ch j
  ready : p.ready = true
  since : ch.Since (gate.sent ch (k + 1)) p.channel
  now : p.channel.now = gate.start ch k + (answer ch k).delay

theorem ready_append (answers : List Outcome) (outcome : Outcome) (ch : Channel) :
    (Probes.mk (answers ++ [outcome]) ch).ready = (answers.any isReady || isReady outcome) := by
  rw [Probes.ready, List.any_append, List.any_cons, List.any_nil, Bool.or_false]

theorem Fruitless.probeOnce (fruitless : Fruitless gate ch k p)
    (early : gate.start ch k < ch.now + gate.timeout) :
    Found gate ch k (gate.probeOnce p) ∨ Fruitless gate ch (k + 1) (gate.probeOnce p) := by
  obtain ⟨probed, silent, inTime, missed⟩ := fruitless
  rw [HealthGate.probeOnce, probed.answered]
  dsimp only
  split
  · rename_i up
    refine .inl ⟨⟨early, (isReady_outcome _ _).mp up⟩, missed, ?_, probed.since_call, probed.now_call⟩
    rw [ready_append, up, Bool.or_true]
  · rename_i down
    refine .inr ⟨probed.succ, ?_, Nat.forall_lt_succ_right.mpr ⟨inTime, early⟩, ?_⟩
    · rw [ready_append, Bool.eq_false_iff.mpr down, Bool.or_false]
      exact silent
    · exact Nat.forall_lt_succ_right.mpr
        ⟨missed, fun succeeds => down ((isReady_outcome _ _).mpr succeeds.2)⟩

/-- The ways for the probes to end: with the first that succeeds, or where the next one would no
longer start in time. -/
inductive Settled (gate : HealthGate) (ch : Channel) (p : Probes) : Prop where
  | ready {k : Nat} : Found gate ch k p → Settled gate ch p
  | late {k : Nat} : Fruitless gate ch k p → ch.now + gate.timeout ≤ gate.start ch k →
    Settled gate ch p

theorem Fruitless.done_iff (fruitless : Fruitless gate ch k p) :
    (gate.loop (ch.now + gate.timeout)).done p = true ↔
      ch.now + gate.timeout ≤ gate.start ch k := by
  simp only [loop, fruitless.silent, Bool.false_or, decide_eq_true_eq, fruitless.probed.now]

theorem Found.done (found : Found gate ch k p) (deadline : Instant) :
    (gate.loop deadline).done p = true := by
  simp only [loop, found.ready, Bool.true_or]

theorem Fruitless.early (fruitless : Fruitless gate ch k p)
    (going : (gate.loop (ch.now + gate.timeout)).done p = false) :
    gate.start ch k < ch.now + gate.timeout :=
  Nat.not_le.mp (mt fruitless.done_iff.mpr (Bool.eq_false_iff.mp going))

def Made (gate : HealthGate) (ch : Channel) (p : Probes) : Prop :=
  ∃ k, Found gate ch k p ∨ Fruitless gate ch k p

theorem Made.probeOnce (made : Made gate ch p)
    (going : (gate.loop (ch.now + gate.timeout)).done p = false) :
    Made gate ch (gate.probeOnce p) := by
  obtain ⟨k, found | fruitless⟩ := made
  · rw [found.done] at going
    cases going
  · rcases fruitless.probeOnce (fruitless.early going) with found | more
    · exact ⟨k, .inl found⟩
    · exact ⟨k + 1, .inr more⟩

theorem settled (ended : gate.probes? ch = some p) : Settled gate ch p := by
  have ends := Loop.run?_eq_some_iff.mp ended
  obtain ⟨k, found | fruitless⟩ :=
    ends.keeps (fun _ => Made.probeOnce) ⟨0, .inr (.begin gate ch)⟩
  · exact .ready found
  · exact .late fruitless (fruitless.done_iff.mp ends.iterate.1)

theorem exists_probes (gate : HealthGate) (ch : Channel)
    (moves : ∀ k, 0 < (answer ch k).delay + gate.pollInterval) :
    ∃ p, gate.probes? ch = some p := by
  have ends : ∃ ended, (gate.loop (ch.now + gate.timeout)).Ends ⟨[], ch⟩ ended := by
    -- A probe in vain takes time, and one that succeeds is the last.
    refine Loop.exists_ends (P := Made gate ch)
      (fun p => (ch.now + gate.timeout - p.channel.now) + (!p.ready).toNat) ?_
      ⟨0, .inr (.begin gate ch)⟩
    intro p made going
    refine ⟨made.probeOnce going, ?_⟩
    have step : (gate.loop (ch.now + gate.timeout)).step p = gate.probeOnce p := rfl
    obtain ⟨k, found | fruitless⟩ := made
    · rw [found.done] at going
      cases going
    · have early := fruitless.early going
      have now := fruitless.probed.now
      rw [step, fruitless.silent]
      rcases fruitless.probeOnce early with found | more
      · have later := found.now
        simp only [found.ready, Bool.not_true, Bool.not_false, Bool.toNat_false, Bool.toNat_true]
        lia
      · have later := more.probed.now
        have time := moves k
        rw [start] at later
        rw [more.silent]
        lia
  obtain ⟨ended, ends⟩ := ends
  exact ⟨ended, Loop.run?_eq_some_iff.mpr ends⟩

theorem still_of_endless (endless : gate.probes? ch = none) : gate.pollInterval = 0 := by
  by_contra pauses
  obtain ⟨p, ended⟩ := exists_probes gate ch fun k => by lia
  rw [ended] at endless
  cases endless

/-- A gate without pauses waits forever for a service that is never up and answers at once. -/
theorem probes?_eq_none (still : gate.pollInterval = 0) (instant : ∀ k, (answer ch k).delay = 0)
    (down : ∀ k, ¬ gate.Succeeds ch k) (long : 0 < gate.timeout) : gate.probes? ch = none := by
  have stands : ∀ k, gate.start ch k = ch.now := by
    intro k
    induction k with
    | zero => rfl
    | succ k ih =>
      rw [start, ih, instant, still]
      rfl
  refine Loop.run?_eq_none_of_keeps (P := fun p => ∃ k, Fruitless gate ch k p) ?_ ?_
    ⟨0, .begin gate ch⟩
  · rintro p ⟨k, fruitless⟩
    refine Bool.eq_false_iff.mpr fun done => ?_
    have spent := fruitless.done_iff.mp done
    rw [stands] at spent
    lia
  · rintro p ⟨k, fruitless⟩
    have early : gate.start ch k < ch.now + gate.timeout := by
      rw [stands]
      lia
    rcases fruitless.probeOnce early with found | more
    · exact absurd found.succeeds (down k)
    · exact ⟨k + 1, more⟩

theorem not_succeeds_of_late (late : ch.now + gate.timeout ≤ gate.start ch k)
    (fruitless : ∀ j < k, ¬ gate.Succeeds ch j) (j : Nat) : ¬ gate.Succeeds ch j := by
  rcases Nat.lt_or_ge j k with before | since
  · exact fruitless j before
  · intro succeeds
    have order := gate.start_mono ch since
    have inTime := succeeds.1
    lia

theorem Settled.ready_iff (settled : Settled gate ch p) :
    p.ready = true ↔ ∃ k, gate.Succeeds ch k := by
  cases settled with
  | @ready k found => exact iff_of_true found.ready ⟨k, found.succeeds⟩
  | late fruitless spent =>
    refine iff_of_false (Bool.eq_false_iff.mp fruitless.silent) ?_
    rintro ⟨k, succeeds⟩
    exact not_succeeds_of_late spent fruitless.missed k succeeds

theorem Settled.of_first (settled : Settled gate ch p) (succeeds : gate.Succeeds ch k)
    (first : ∀ j < k, ¬ gate.Succeeds ch j) :
    ch.Since (gate.sent ch (k + 1)) p.channel ∧
      p.channel.now = gate.start ch k + (answer ch k).delay := by
  cases settled with
  | @ready n found =>
    have same : n = k := by
      rcases Nat.lt_trichotomy n k with before | same | behind
      · exact absurd found.succeeds (first n before)
      · exact same
      · exact absurd succeeds (found.first k behind)
    exact same ▸ ⟨found.since, found.now⟩
  | late fruitless spent =>
    exact absurd succeeds (not_succeeds_of_late spent fruitless.missed k)

theorem Settled.of_down (settled : Settled gate ch p) (down : ∀ k, ¬ gate.Succeeds ch k) :
    ∃ k, ch.now + gate.timeout ≤ gate.start ch k ∧ Fruitless gate ch k p := by
  cases settled with
  | @ready k found => exact absurd found.succeeds (down k)
  | @late k fruitless spent => exact ⟨k, spent, fruitless⟩

theorem Settled.punctual (moves : ∀ k, 0 < (answer ch k).delay + gate.pollInterval)
    (prompt : ∀ k, (answer ch k).delay ≤ gate.probeTimeout) (settled : Settled gate ch p) :
    p.channel.now < ch.now + gate.timeout + gate.probeTimeout + gate.pollInterval ∧
      (p.ready = true → p.channel.now < ch.now + gate.timeout + gate.probeTimeout) := by
  cases settled with
  | @ready k found =>
    have early := found.succeeds.1
    have short := prompt k
    have now := found.now
    exact ⟨by lia, fun _ => by lia⟩
  | @late k fruitless _ =>
    refine ⟨?_, fun found => absurd found (Bool.eq_false_iff.mp fruitless.silent)⟩
    rw [fruitless.probed.now]
    cases k with
    | zero =>
      have step := moves 0
      have short := prompt 0
      rw [start]
      lia
    | succ k =>
      have early := fruitless.inTime k (Nat.lt_succ_self k)
      have short := prompt k
      rw [start]
      lia

/-- What a gate does about the probes that follow on a channel. -/
structure Decides (gate : HealthGate) (ch : Channel) : Prop where
  returns : gate.verdict? ch = some (gate.await ch)
  ready_iff : (gate.await ch).1 = true ↔ ∃ k, gate.Succeeds ch k
  ready : ∀ k, gate.Succeeds ch k → (∀ j < k, ¬ gate.Succeeds ch j) →
    (gate.await ch).2.log.toList = ch.log.toList ++ gate.sent ch (k + 1) ∧
      (gate.await ch).2.now = gate.start ch k + (answer ch k).delay
  unready : (∀ k, ¬ gate.Succeeds ch k) →
    ∃ k, ch.now + gate.timeout ≤ gate.start ch k ∧
      (∀ j < k, gate.start ch j < ch.now + gate.timeout) ∧
      (gate.await ch).2.log.toList = ch.log.toList ++ gate.sent ch k ∧
      (gate.await ch).2.now = gate.start ch k
  punctual : (∀ k, (answer ch k).delay ≤ gate.probeTimeout) →
    (gate.await ch).2.now < ch.now + gate.timeout + gate.probeTimeout + gate.pollInterval ∧
      ((gate.await ch).1 = true →
        (gate.await ch).2.now < ch.now + gate.timeout + gate.probeTimeout)

theorem verdict_of_probes (ended : gate.probes? ch = some p) :
    gate.verdict? ch = some (gate.await ch) ∧ gate.await ch = (p.ready, p.channel) := by
  have verdict : gate.verdict? ch = some (p.ready, p.channel) := by
    rw [verdict?, ended, Option.map_some]
  have await : gate.await ch = (p.ready, p.channel) := by
    rw [HealthGate.await, verdict, Option.getD_some]
  exact ⟨verdict.trans (congrArg some await.symm), await⟩

/-- A gate whose probes and pauses take time comes to a verdict: the service is ready exactly if a
probe that starts before the deadline is answered with status 200. The first such probe is the last
that is made; without one, all that start before the deadline are made and no other. -/
theorem await_decides (baseUrl healthPath : String) (timeout pollInterval probeTimeout : Duration)
    (ch : Channel) (moves : ∀ k, 0 < (answer ch k).delay + pollInterval) :
    Decides ⟨Url.join baseUrl healthPath, timeout, pollInterval, probeTimeout⟩ ch := by
  obtain ⟨p, ended⟩ :=
    exists_probes ⟨Url.join baseUrl healthPath, timeout, pollInterval, probeTimeout⟩ ch moves
  have settled := settled ended
  obtain ⟨returns, verdict⟩ := verdict_of_probes ended
  constructor
  case returns => exact returns
  all_goals rw [verdict]
  case ready_iff => exact settled.ready_iff
  case punctual => exact settled.punctual moves
  case ready =>
    intro k succeeds first
    obtain ⟨since, now⟩ := settled.of_first succeeds first
    exact ⟨since.log, now⟩
  case unready =>
    intro down
    obtain ⟨k, spent, fruitless⟩ := settled.of_down down
    exact ⟨k, spent, fruitless.inTime, fruitless.probed.since.log, fruitless.probed.now⟩

def comingUp : Channel := .ofScript fun _ n =>
  match n with
  | 0 => ⟨3, .error "connection refused"⟩
  | 1 => ⟨5, .ok ⟨204, []⟩⟩
  | _ => ⟨20, .ok ⟨200, []⟩⟩

/-- The third probe starts before the deadline and is answered behind it, which is in time. -/
theorem await_decides_comingUp :
    (∀ k, 0 < (answer comingUp k).delay + 10) ∧
    let gate : HealthGate := ⟨Url.join "http://svc/" "/health", 40, 10, 25⟩
    let probe : Request := .get (Url.join "http://svc/" "/health") 25
    (gate.await comingUp).1 = true ∧ (gate.await comingUp).2.now = 48 ∧
      (gate.await comingUp).2.log.toList = [⟨0, probe⟩, ⟨13, probe⟩, ⟨28, probe⟩] := by
  have moves : ∀ k, 0 < (answer comingUp k).delay + 10 := fun _ => Nat.succ_pos _
  have decides := await_decides "http://svc/" "/health" 40 10 25 comingUp moves
  have third : Succeeds ⟨Url.join "http://svc/" "/health", 40, 10, 25⟩ comingUp 2 :=
    ⟨by decide, _, rfl, rfl⟩
  have first : ∀ j < 2, ¬ Succeeds ⟨Url.join "http://svc/" "/health", 40, 10, 25⟩ comingUp j := by
    rintro (_ | _ | j) before ⟨-, response, reply, up⟩
    · cases reply
    · cases reply
      cases up
    · omega
  obtain ⟨log, now⟩ := decides.ready 2 third first
  exact ⟨moves, decides.ready_iff.mpr ⟨2, third⟩, now, log⟩

end LoadBench.HealthGate
