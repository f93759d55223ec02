import LoadBench.Proofs.Config.Run
import LoadBench.Proofs.Run.Setup
import LoadBench.Proofs.Run.Timeline

namespace LoadBench

namespace RunConfig

theorem second_le_duration {c : RunConfig} (valid : c.fault? = none) : 10 ^ 9 ≤ c.duration := by
  have rule := rules_kept valid (c.durationSecs = 0, .zeroDuration) (by simp [rules])
  have positive : c.durationSecs ≠ 0 := of_decide_eq_false rule
  exact Nat.le_mul_of_pos_left _ (Nat.pos_of_ne_zero positive)

theorem concurrency_pos {c : RunConfig} (valid : c.fault? = none) : 0 < c.concurrency := by
  have rule := rules_kept valid (c.concurrency = 0, .zeroConcurrency) (by simp [rules])
  have positive : c.concurrency ≠ 0 := of_decide_eq_false rule
  omega

end RunConfig

namespace Window

variable {c : RunConfig} {opened : Channel} {calls : List Landed} {w later : Window}
  {landed : Option Landed}

/-- What is left to the workers until the deadline, and one for each that runs. -/
def remaining (w : Window) : Nat := w.waiting.foldr (fun p left => w.deadline - p.time + 1 + left) 0

theorem remaining_chosen {p : Waiting} {rest : List Waiting}
    (chosen : w.waiting.Perm (p :: rest)) :
    w.remaining = w.deadline - p.time + 1 +
      rest.foldr (fun q left => w.deadline - q.time + 1 + left) 0 := by
  rw [remaining, chosen.foldr_eq' fun a _ b _ left => by omega, List.foldr_cons]

end Window

def RunConfig.Uses (c : RunConfig) (kind : OperationKind) : Prop :=
  ∃ source, (OperationKind.next c source).1 = kind

/-- From the `n`-th of its route on, each answer to an operation of some kinds takes time. -/
def Script.TakesTime (script : Script) (kinds : OperationKind → Prop) (n : Nat) : Prop :=
  ∀ kind, kinds kind → ∀ k, n ≤ k → 0 < (script kind.route k).delay

/-- How many searches and inserts there are yet before the `n`-th of each. -/
def Served.before (n : Nat) (served : Served) : Nat := (n - served.search) + (n - served.insert)

namespace Served

variable (n : Nat) (served : Served) (kind : OperationKind)

theorem before_add_le : (served.add kind.route).before n ≤ served.before n := by
  cases kind <;> simp only [before, add, OperationKind.route] <;> omega

theorem before_add_lt (early : served.count kind.route < n) :
    (served.add kind.route).before n < served.before n := by
  cases kind <;> simp only [before, add, count, OperationKind.route] at early ⊢ <;> omega

end Served

namespace Window

variable {c : RunConfig} {w : Window} {n : Nat}

structure Moving (c : RunConfig) (n : Nat) (w : Window) : Prop where
  configs : ∀ p ∈ w.waiting, p.worker.config = c
  takes : w.channel.script.TakesTime c.Uses n

theorem opening_moving {ch : Channel} (takes : ch.script.TakesTime c.Uses n) :
    Moving c n (opening c ch) := by
  refine ⟨fun p member => ?_, takes⟩
  obtain ⟨i, _, rfl⟩ := List.mem_map.mp member
  rfl

theorem Moving.goOn {p : Waiting} {rest : List Waiting} (moving : Moving c n w)
    (queue : w.waiting = p :: rest) : Moving c n (w.goOn p rest p.time) := by
  refine ⟨fun q member => ?_, moving.takes⟩
  rcases mem_goOn.mp member with rfl | member
  · exact moving.configs p (queue ▸ List.mem_cons_self)
  · exact moving.configs q (queue ▸ List.mem_cons_of_mem p member)

/-- At each step less is left of the time until the deadline, of the workers that run, or of the
answers that may take no time. -/
theorem Moving.step (moving : Moving c n w) (running : w.waiting ≠ []) :
    Moving c n w.step ∧
      w.step.remaining + w.step.channel.served.before n <
        w.remaining + w.channel.served.before n := by
  obtain ⟨p, rest, queue, ⟨early, goesOn⟩ | ⟨-, retires⟩⟩ := step_cases running
  · rw [goesOn]
    refine ⟨moving.goOn queue, ?_⟩
    have time := departed_time w p p.time
    have route : Route.of (w.departure p p.time).call.request = p.worker.next.1.kind.route :=
      p.worker.route_next
    have served : (w.goOn p rest p.time).channel.served =
        w.channel.served.add (Route.of (w.departure p p.time).call.request) := rfl
    have deadline : (w.goOn p rest p.time).deadline = w.deadline := rfl
    rw [Script.answer, route] at time
    rw [served, route, remaining_chosen (goOn_waiting w p rest p.time),
      remaining_chosen (.of_eq queue), deadline, time]
    -- An answer before the `n`-th may take no time, but then there are fewer of those left.
    by_cases first : w.channel.served.count p.worker.next.1.kind.route < n
    · have fewer := w.channel.served.before_add_lt n _ first
      lia
    · have used : c.Uses p.worker.next.1.kind :=
        ⟨p.worker.source, by rw [← moving.configs p (queue ▸ List.mem_cons_self)]; rfl⟩
      have positive := moving.takes _ used _ (Nat.le_of_not_lt first)
      have fewer := w.channel.served.before_add_le n p.worker.next.1.kind
      lia
  · have others : ∀ q ∈ rest, q.worker.config = c := fun q member =>
      moving.configs q (queue ▸ List.mem_cons_of_mem p member)
    rw [retires]
    refine ⟨⟨others, moving.takes⟩, ?_⟩
    have same : (w.retire p rest p.time).remaining =
        rest.foldr (fun q left => w.deadline - q.time + 1 + left) 0 := rfl
    have served : (w.retire p rest p.time).channel.served = w.channel.served := rfl
    rw [same, served, remaining_chosen (.of_eq queue)]
    lia

theorem exists_run {ch : Channel} (takes : ch.script.TakesTime c.Uses n) :
    ∃ w, run c ch = some w := by
  obtain ⟨w, ends⟩ := loop.exists_ends (P := Moving c n)
    (fun w => w.remaining + w.channel.served.before n)
    (fun w moving going => moving.step (by simpa [loop] using going)) (opening_moving takes)
  exact ⟨w, Loop.run?_eq_some_iff.mpr ends⟩

end Window

/-- A run returns once the calls that its workers make take time; if none ever did, the clock might
not reach the end of the window. -/
theorem benchmark_returns {c : RunConfig} {ch : Channel} {n : Nat}
    (takes : ch.script.TakesTime c.Uses n) :
    ∃ outcome later, benchmark c ch = some (outcome, later) := by
  obtain ⟨sent, since, _⟩ := since_setUp c ch
  rw [benchmark]
  rcases made : setUp c ch with ⟨outcome, opened⟩
  rw [made] at since
  cases outcome with
  | error fault => exact ⟨_, _, rfl⟩
  | ok =>
    have kept : opened.script.TakesTime c.Uses n := since.script ▸ takes
    obtain ⟨w, ran⟩ := Window.exists_run kept
    simp only [ran, Option.map_some]
    exact ⟨_, _, rfl⟩

end LoadBench
