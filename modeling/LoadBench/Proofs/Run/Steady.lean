import LoadBench.Proofs.Run.Termination

namespace LoadBench

namespace Window

/-- A window in which every call takes the same time, so that the workers go on together. -/
structure Steady (d : Duration) (c : RunConfig) (opened : Channel) (w : Window) : Prop where
  script : w.channel.script = opened.script
  deadline : w.deadline = opened.now + c.duration
  calls : ∀ p ∈ w.waiting, ∃ i, p.time = opened.now + i * d ∧
    ∀ f, p.flight = some f → f.started + d = p.time

variable {d : Duration} {c : RunConfig} {opened : Channel} {w : Window} {p : Waiting}
  {rest : List Waiting}

theorem opening_steady (d : Duration) (c : RunConfig) (opened : Channel) :
    Steady d c opened (opening c opened) := by
  refine ⟨rfl, pollUntil_eq (Nat.le_add_right _ _), fun p member => ⟨0, ?_, ?_⟩⟩
  · obtain ⟨i, _, rfl⟩ := List.mem_map.mp member
    rw [Nat.zero_mul]
    rfl
  · obtain ⟨i, _, rfl⟩ := List.mem_map.mp member
    nofun

section

variable (same : ∀ (kind : OperationKind) n, (opened.script kind.route n).delay = d)
include same

theorem Steady.goOn (steady : Steady d c opened w) (queue : w.waiting = p :: rest) :
    Steady d c opened (w.goOn p rest p.time) := by
  refine ⟨steady.script, steady.deadline, fun q member => ?_⟩
  rcases mem_goOn.mp member with rfl | member
  · obtain ⟨i, time, _⟩ := steady.calls p (queue ▸ List.mem_cons_self)
    have route : Route.of (w.departure p p.time).call.request = p.worker.next.1.kind.route :=
      p.worker.route_next
    have later : (w.departed p p.time).time = p.time + d := by
      rw [departed_time, Script.answer, route, steady.script, same]
    refine ⟨i + 1, ?_, fun f flight => ?_⟩
    · rw [later, time, Nat.add_assoc, Nat.succ_mul]
    · rw [departed_flight] at flight
      cases flight
      exact later.symm
  · exact steady.calls q (queue ▸ List.mem_cons_of_mem p member)

theorem Steady.step (steady : Steady d c opened w) : Steady d c opened w.step := by
  by_cases running : w.waiting = []
  · rwa [step_eq_self running]
  · obtain ⟨p, rest, queue, ⟨-, goesOn⟩ | ⟨-, retires⟩⟩ := step_cases running
    · rw [goesOn]
      exact steady.goOn same queue
    · rw [retires]
      exact ⟨steady.script, steady.deadline, fun q member =>
        steady.calls q (queue ▸ List.mem_cons_of_mem p member)⟩

end

theorem run_eq_none_of_instant
    (instant : ∀ (kind : OperationKind) n, (opened.script kind.route n).delay = 0)
    (long : 0 < c.duration) (workers : 0 < c.concurrency) : run c opened = none := by
  -- Every worker waits at the opening, which is before the deadline, and goes on from there.
  refine loop.run?_eq_none_of_keeps (P := fun w => Steady 0 c opened w ∧ w.waiting ≠ []) ?_ ?_
    ⟨opening_steady 0 c opened, ?_⟩
  · rintro w ⟨_, running⟩
    exact Bool.eq_false_iff.mpr fun stopped => running (List.isEmpty_iff.mp stopped)
  · rintro w ⟨steady, running⟩
    refine ⟨steady.step instant, ?_⟩
    have next : loop.step w = w.step := rfl
    obtain ⟨p, rest, queue, ⟨-, goesOn⟩ | ⟨closed, -⟩⟩ := step_cases running
    · rw [next, goesOn]
      exact List.ne_nil_of_mem (mem_goOn.mpr (.inl rfl))
    · obtain ⟨i, time, _⟩ := steady.calls p (queue ▸ List.mem_cons_self)
      rw [time, steady.deadline] at closed
      lia
  · simpa [opening] using Nat.ne_of_gt workers

end Window

def instantService : Script := fun _ _ => ⟨0, .ok ⟨200, []⟩⟩

/-- A valid run never returns if its service accepts everything at once. -/
theorem benchmark_eq_none {c : RunConfig} (valid : c.fault? = none) :
    benchmark c (.ofScript instantService) = none := by
  have accepts (route : Route) (n : Nat) : ∃ response,
      ((Channel.ofScript instantService).script route n).reply = .ok response ∧
        response.status < 400 := ⟨⟨200, []⟩, rfl, by decide⟩
  have instant (kind : OperationKind) (n : Nat) :
      ((((Channel.ofScript instantService).callAll c.setupRequests).script kind.route n).delay) =
        0 := by
    obtain ⟨_, _, since⟩ := Channel.since_callAll c.setupRequests (.ofScript instantService)
    rw [since.script]
    rfl
  have long := RunConfig.second_le_duration valid
  have endless := Window.run_eq_none_of_instant (c := c) instant (by lia)
    (RunConfig.concurrency_pos valid)
  rw [benchmark, setUp_of_accepting valid accepts]
  simp only [endless, Option.map_none]

/-- A service that takes three tenths of a second for everything. Of three searches or inserts in a
row it accepts the first, refuses the second and loses the third; all else it accepts. -/
def faultyService : Script := fun route n =>
  match route, n % 3 with
  | .search, 1 | .insert, 1 => ⟨Duration.ofMillis 300, .ok ⟨503, []⟩⟩
  | .search, 2 | .insert, 2 => ⟨Duration.ofMillis 300, .error "connection reset"⟩
  | _, _ => ⟨Duration.ofMillis 300, .ok ⟨200, []⟩⟩

def busyRun (mode : Mode) : RunConfig :=
  { RunConfig.default with
    dimensions := 2, prefill := 3, batchSize := 2, mode, durationSecs := 1, concurrency := 2
    useFilter := true }

def busyOpened (mode : Mode) : Channel :=
  (Channel.ofScript faultyService).callAll (busyRun mode).setupRequests

theorem setUp_busyRun (mode : Mode) :
    setUp (busyRun mode) (.ofScript faultyService) = (.ok (), busyOpened mode) :=
  setUp_of_accepted (by cases mode <;> decide +kernel)

def busyEnd (mode : Mode) : Window := Window.step^[10] (.opening (busyRun mode) (busyOpened mode))

theorem benchmark_busyRun {mode : Mode} (stopped : (busyEnd mode).waiting.isEmpty = true) :
    ∃ summary, benchmark (busyRun mode) (.ofScript faultyService) =
        some (.ok summary, (busyEnd mode).channel) ∧
      summary.errors = (busyEnd mode).collector.errors := by
  have ran := Window.run_eq_some_iff.mpr ⟨List.isEmpty_iff.mp stopped, 10, rfl⟩
  rw [benchmark, setUp_busyRun]
  simp only [ran, Option.map_some]
  exact ⟨_, rfl, rfl⟩

/-- Of eight calls three are accepted, two searches among them; three are refused, two lost. -/
theorem benchmark_busyRun_mixed : ∃ summary later,
    benchmark (busyRun .mixed) (.ofScript faultyService) = some (.ok summary, later) ∧
      summary.errors = ⟨4, 1⟩ := by
  have ended : (busyEnd .mixed).waiting.isEmpty = true ∧
      (busyEnd .mixed).collector.errors = ⟨4, 1⟩ := by decide +kernel
  obtain ⟨summary, ran, errors⟩ := benchmark_busyRun ended.1
  exact ⟨summary, _, ran, errors.trans ended.2⟩

theorem benchmark_busyRun_insert : ∃ summary later,
    benchmark (busyRun .insert) (.ofScript faultyService) = some (.ok summary, later) ∧
      summary.errors = ⟨2, 3⟩ := by
  have ended : (busyEnd .insert).waiting.isEmpty = true ∧
      (busyEnd .insert).collector.errors = ⟨2, 3⟩ := by decide +kernel
  obtain ⟨summary, ran, errors⟩ := benchmark_busyRun ended.1
  exact ⟨summary, _, ran, errors.trans ended.2⟩

theorem delay_faultyService (route : Route) (n : Nat) :
    (faultyService route n).delay = Duration.ofMillis 300 := by
  unfold faultyService
  split <;> rfl

end LoadBench
