import LoadBench.Proofs.Loop
import LoadBench.Proofs.Run.Order

namespace LoadBench.Window

def Sorted (queue : List Waiting) : Prop := queue.Pairwise (·.time ≤ ·.time)

theorem Sorted.le_of_mem_dropWhile {queue : List Waiting} (sorted : Sorted queue) (t : Instant) :
    ∀ q ∈ queue.dropWhile (·.time ≤ t), t ≤ q.time := by
  induction queue with
  | nil => simp
  | cons p rest ih =>
    obtain ⟨first, tail⟩ := List.pairwise_cons.mp sorted
    intro q member
    by_cases early : p.time ≤ t
    · rw [List.dropWhile_cons_of_pos (by simpa using early)] at member
      exact ih tail q member
    · rw [List.dropWhile_cons_of_neg (by simpa using early)] at member
      rcases List.mem_cons.mp member with rfl | member
      · lia
      · have := first q member
        lia

theorem Sorted.enqueue {queue : List Waiting} {now : Instant} {p : Waiting}
    (sorted : Sorted queue) (ahead : ∀ q ∈ queue, now ≤ q.time) :
    Sorted (Window.enqueue now p queue) := by
  unfold Window.enqueue
  split
  · refine List.pairwise_cons.mpr ⟨fun q member => ?_, sorted⟩
    have := ahead q member
    lia
  · have early : ∀ q ∈ queue.takeWhile (·.time ≤ p.time), q.time ≤ p.time := by
      intro q member
      exact of_decide_eq_true (List.all_eq_true.mp List.all_takeWhile q member)
    have late := sorted.le_of_mem_dropWhile p.time
    refine List.pairwise_append.mpr ⟨?_, List.pairwise_cons.mpr ⟨late, ?_⟩, ?_⟩
    · exact sorted.sublist (List.takeWhile_sublist _)
    · exact sorted.sublist (List.dropWhile_sublist _)
    · intro a before b after
      have := early a before
      rcases List.mem_cons.mp after with rfl | after
      · exact this
      · exact Nat.le_trans this (late b after)

theorem opening_sorted (c : RunConfig) (ch : Channel) : Sorted (opening c ch).waiting := by
  refine List.Pairwise.map _ ?_ (List.pairwise_lt_range (n := c.concurrency))
  exact fun _ _ _ => Nat.le_refl _

theorem step_eq_self {w : Window} (stopped : w.waiting = []) : w.step = w := by
  rw [step, stopped]

/-- The first worker in the queue goes on before the deadline, and stops from then on. -/
theorem step_cases {w : Window} (running : w.waiting ≠ []) :
    ∃ p rest, w.waiting = p :: rest ∧
      ((p.time < w.deadline ∧ w.step = w.goOn p rest p.time) ∨
        (w.deadline ≤ p.time ∧ w.step = w.retire p rest p.time)) := by
  obtain ⟨p, rest, queue⟩ := List.exists_cons_of_ne_nil running
  refine ⟨p, rest, queue, ?_⟩
  simp only [step, queue]
  split
  · rename_i early
    exact .inl ⟨early, rfl⟩
  · rename_i closed
    exact .inr ⟨Nat.le_of_not_lt closed, rfl⟩

theorem step_prompt {w : Window} (sorted : Sorted w.waiting) (running : w.waiting ≠ []) :
    (∃ landed, Prompt w landed w.step) ∧ Sorted w.step.waiting := by
  obtain ⟨p, rest, queue, step⟩ := step_cases running
  have chosen : w.waiting.Perm (p :: rest) := .of_eq queue
  rw [queue] at sorted
  obtain ⟨earliest, tail⟩ := List.pairwise_cons.mp sorted
  rcases step with ⟨early, goesOn⟩ | ⟨closed, retires⟩
  · rw [goesOn]
    exact ⟨⟨_, .goOn chosen earliest (Nat.le_of_lt early)⟩, Sorted.enqueue tail earliest⟩
  · rw [retires]
    exact ⟨⟨_, .retire chosen earliest closed⟩, tail⟩

theorem steps_prompt {P : Window → Prop} {w : Window} (sorted : Sorted w.waiting)
    (holds : ∀ n, P (step^[n] w)) (n : Nat) :
    (∃ calls, Reaches (fun w landed later => Prompt w landed later ∧ P later) w calls (step^[n] w)) ∧
      Sorted (step^[n] w).waiting := by
  induction n with
  | zero => exact ⟨⟨[], .here⟩, sorted⟩
  | succ n ih =>
    obtain ⟨⟨calls, reached⟩, queued⟩ := ih
    have next := holds (n + 1)
    rw [Function.iterate_succ_apply'] at next ⊢
    by_cases running : (step^[n] w).waiting = []
    · rw [step_eq_self running]
      exact ⟨⟨calls, reached⟩, queued⟩
    · obtain ⟨⟨landed, turn⟩, later⟩ := step_prompt queued running
      exact ⟨⟨_, .turn reached ⟨turn, next⟩⟩, later⟩

theorem run_eq_some_iff {c : RunConfig} {ch : Channel} {ended : Window} :
    run c ch = some ended ↔ ended.waiting = [] ∧ ∃ n, step^[n] (opening c ch) = ended := by
  have still : ∀ w, loop.done w = true → loop.step w = w := fun w stopped =>
    step_eq_self (List.isEmpty_iff.mp stopped)
  rw [run, Loop.run?_eq_some_iff, Loop.ends_iff_of_still still]
  exact and_congr_left' List.isEmpty_iff

theorem run_prompt {c : RunConfig} {ch : Channel} {w : Window} (h : run c ch = some w) :
    w.waiting = [] ∧ ∃ calls, Reaches Prompt (opening c ch) calls w := by
  obtain ⟨stopped, n, rfl⟩ := run_eq_some_iff.mp h
  have steps := steps_prompt (P := fun _ => True) (opening_sorted c ch) (fun _ => trivial) n
  obtain ⟨calls, reached⟩ := steps.1
  exact ⟨stopped, calls, reached.mono fun _ _ _ h => h.1⟩

end LoadBench.Window

namespace LoadBench

/-- What the program makes of a run is one of its courses. -/
theorem benchmark_course {c : RunConfig} {ch later : Channel}
    {result : Except RunFault RunSummary} (h : benchmark c ch = some (result, later)) :
    Course c ch (some result) later := by
  unfold benchmark at h
  split at h
  · rename_i setup
    cases h
    exact .failed setup
  · rename_i opened setup
    obtain ⟨w, ran, same⟩ := Option.map_eq_some_iff.mp h
    cases same
    obtain ⟨stopped, calls, reached⟩ := Window.run_prompt ran
    have turns := (reached.turns (Window.opening_ahead c opened)).1
    exact .returned setup turns stopped (Nat.le_max_left _ _) (Nat.le_max_right _ _)

end LoadBench
