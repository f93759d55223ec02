import LoadBench.Proofs.Config.Session
import LoadBench.Session.Stage

namespace LoadBench.Session

variable {σ α β : Type}

/-- Jobs done one after the other between two worlds: each result is what its job came to in the
world that the job before it left. -/
def InTurn (act : α → σ → Option (β × σ)) (jobs : List α) (first : σ) (results : List β)
    (last : σ) : Prop :=
  ∃ worlds : Nat → σ, worlds 0 = first ∧ worlds jobs.length = last ∧
    results.length = jobs.length ∧
    ∀ (i : Nat) (job : α) (result : β), jobs[i]? = some job → results[i]? = some result →
      act job (worlds i) = some (result, worlds (i + 1))

def happened (event : α → Option β → SessionEvent) (jobs : List α) (results : List β) :
    List SessionEvent :=
  List.zipWith (fun job result => event job (some result)) jobs results

theorem InTurn.nil (act : α → σ → Option (β × σ)) (world : σ) : InTurn act [] world [] world := by
  refine ⟨fun _ => world, rfl, rfl, rfl, ?_⟩
  intro i job result found
  rw [List.getElem?_nil] at found
  cases found

theorem InTurn.cons {act : α → σ → Option (β × σ)} {job : α} {jobs : List α} {result : β}
    {results : List β} {first next last : σ} (head : act job first = some (result, next))
    (tail : InTurn act jobs next results last) :
    InTurn act (job :: jobs) first (result :: results) last := by
  obtain ⟨worlds, start, stop, length, each⟩ := tail
  refine ⟨fun i => i.casesOn first worlds, rfl, stop, congrArg (· + 1) length, ?_⟩
  intro i other answer found given
  cases i with
  | zero =>
    rw [List.getElem?_cons_zero] at found given
    cases found
    cases given
    rw [← start] at head
    exact head
  | succ i =>
    rw [List.getElem?_cons_succ] at found given
    exact each i other answer found given

def Stuck (act : α → σ → Option (β × σ)) (event : α → Option β → SessionEvent) (jobs : List α)
    (first last : σ) (events : List SessionEvent) : Prop :=
  ∃ before job rest results, jobs = before ++ job :: rest ∧ InTurn act before first results last ∧
    act job last = none ∧ events = happened event before results ++ [event job none]

theorem Stuck.head {act : α → σ → Option (β × σ)} {job : α} {world : σ}
    (event : α → Option β → SessionEvent) (rest : List α) (endless : act job world = none) :
    Stuck act event (job :: rest) world world [event job none] :=
  ⟨[], job, rest, [], rfl, .nil act world, endless, rfl⟩

theorem Stuck.cons {act : α → σ → Option (β × σ)} {event : α → Option β → SessionEvent} {job : α}
    {jobs : List α} {result : β} {first next last : σ} {events : List SessionEvent}
    (head : act job first = some (result, next)) (tail : Stuck act event jobs next last events) :
    Stuck act event (job :: jobs) first last (event job (some result) :: events) := by
  obtain ⟨before, stuck, rest, results, split, done, endless, happened⟩ := tail
  exact ⟨job :: before, stuck, rest, result :: results, congrArg (job :: ·) split,
    .cons head done, endless, congrArg (event job (some result) :: ·) happened⟩

theorem inTurn_cases (act : α → σ → Option (β × σ)) (event : α → Option β → SessionEvent)
    (jobs : List α) (s : Session σ) :
    (∃ results last, InTurn act jobs s.world results last ∧
      inTurn act event jobs s =
        (some results, ⟨s.channel, last, s.events ++ happened event jobs results⟩)) ∨
    (∃ last events, Stuck act event jobs s.world last events ∧
      inTurn act event jobs s = (none, ⟨s.channel, last, s.events ++ events⟩)) := by
  induction jobs generalizing s with
  | nil => exact .inl ⟨[], s.world, .nil act s.world, by simp [inTurn, happened]⟩
  | cons job rest ih =>
    rcases attempt : act job s.world with _ | ⟨result, world⟩
    · refine .inr ⟨s.world, [event job none], .head event rest attempt, ?_⟩
      simp only [inTurn, attempt]
      rfl
    · rcases ih ({ s with world }.happen (event job (some result))) with
        ⟨results, last, done, run⟩ | ⟨last, events, stuck, run⟩
      · refine .inl ⟨result :: results, last, .cons attempt done, ?_⟩
        simp only [inTurn, attempt, run]
        simp [happen, happened]
      · refine .inr ⟨last, _, .cons attempt stuck, ?_⟩
        simp only [inTurn, attempt, run]
        simp [happen]

section

variable (stage : Stage σ) (options : SessionOptions) (c : SessionConfig)

/-- The folder beside the report, for one summary of each scenario. -/
def summaryFolder : String :=
  Path.join ((Path.parent? options.output).getD "") "_scenario_outputs"

def scenarioSettings (scenario : Scenario) : RunConfig :=
  c.settings scenario (some (Path.join (summaryFolder options) (scenario.name ++ ".json")))

def actScenario (scenario : Scenario) : σ → Option (ScenarioResult × σ) :=
  stage.scenario scenario.name (scenarioSettings options c scenario)

def scenarioEvent (scenario : Scenario) : Option ScenarioResult → SessionEvent :=
  .scenario scenario.name (scenarioSettings options c scenario)

/-- What the scenarios and some commands come to from a world on: their results, if all of them end,
the world they leave and what has happened. -/
inductive Performed (commands : List String) (first : σ) :
    Option (List ScenarioResult × List CommandResult) → σ → List SessionEvent → Prop where
  | ended {http core between last} :
    InTurn (actScenario stage options c) c.traffic.scenarios first http between →
    InTurn stage.command commands between core last →
    Performed commands first (some (http, core)) last
      (happened (scenarioEvent options c) c.traffic.scenarios http ++
        happened .command commands core)
  | endlessScenario {last events} :
    Stuck (actScenario stage options c) (scenarioEvent options c) c.traffic.scenarios first last
      events →
    Performed commands first none last events
  | endlessCommand {http between last events} :
    InTurn (actScenario stage options c) c.traffic.scenarios first http between →
    Stuck stage.command .command commands between last events →
    Performed commands first none last
      (happened (scenarioEvent options c) c.traffic.scenarios http ++ events)

end

theorem runScenarios_eq (stage : Stage σ) (options : SessionOptions) (c : SessionConfig)
    (s : Session σ) :
    s.runScenarios stage options c =
      inTurn (actScenario stage options c) (scenarioEvent options c) c.traffic.scenarios s := by
  have settings := c.recordedRun_eq_settings options.output
  simp only [runScenarios, settings]
  rfl

theorem perform_cases (stage : Stage σ) (options : SessionOptions) (c : SessionConfig)
    (s : Session σ) :
    ∃ results last events,
      Performed stage options c (commandsOf c options) (s.prepare stage options).world results last
        events ∧
      s.perform stage options c = (results, ⟨s.channel, last, s.events ++ events⟩) := by
  rcases inTurn_cases (actScenario stage options c) (scenarioEvent options c) c.traffic.scenarios
      (s.prepare stage options) with
    ⟨http, between, done, scenarios⟩ | ⟨last, events, stuck, scenarios⟩
  · rcases inTurn_cases stage.command .command (commandsOf c options)
        ⟨s.channel, between,
          s.events ++ happened (scenarioEvent options c) c.traffic.scenarios http⟩ with
      ⟨core, last, finished, commands⟩ | ⟨last, events, stuck, commands⟩
    · refine ⟨_, last, _, .ended done finished, ?_⟩
      simp only [perform, runScenarios_eq, runCommands, scenarios]
      simp only [prepare, commands, Option.map_some, List.append_assoc]
    · refine ⟨none, last, _, .endlessCommand done stuck, ?_⟩
      simp only [perform, runScenarios_eq, runCommands, scenarios]
      simp only [prepare, commands, Option.map_none, List.append_assoc]
  · refine ⟨none, last, events, .endlessScenario stuck, ?_⟩
    simp only [perform, runScenarios_eq, scenarios]
    rfl

def Reported (stage : Stage σ) (options : SessionOptions) (report : Report) (success : Bool)
    (world : σ) (ended : Option (Except IoFault SessionOutcome) × Session σ) : Prop :=
  match stage.write report options.output world with
  | .ok last => ended.1 = some (.ok ⟨report, success⟩) ∧ ended.2.world = last
  | .error fault => ended.1 = some (.error fault) ∧ ended.2.world = world

/-- What a session has come to that began on a channel and in a world. -/
structure Conducted (stage : Stage σ) (options : SessionOptions) (timestamp : String)
    (c : SessionConfig) (gate : HealthGate) (channel : Channel) (world : σ)
    (ended : Option (Except IoFault SessionOutcome) × Session σ) : Prop where
  unstarted : ∀ fault, stage.start c.server.startCommand world = .error fault →
    ∃ marker : FailureMarker, Choice.name marker = "server_start_failed" ∧
      Reported stage options ⟨timestamp, c, [], [], some marker⟩ false world ended ∧
      ended.2.events = [.write] ∧ ended.2.channel = channel
  endless : ∀ started, stage.start c.server.startCommand world = .ok started →
    gate.probes? channel = none →
    ended.1 = none ∧ ended.2.world = started ∧ ended.2.events = [.start, .endlessProbes]
  unready : ∀ started p, stage.start c.server.startCommand world = .ok started →
    gate.probes? channel = some p → p.ready = false →
    ∃ marker : FailureMarker, Choice.name marker = "server_not_ready" ∧
      Reported stage options ⟨timestamp, c, [], [], some marker⟩ false (stage.stop started).2
        ended ∧
      ended.2.events = .start :: p.answers.map .probe ++ [.stop, .write]
  ready : ∀ started p, stage.start c.server.startCommand world = .ok started →
    gate.probes? channel = some p → p.ready = true →
    ∃ results last events,
      Performed stage options c
        (if c.core.enabled && !options.skipCore then c.core.commands else [])
        (stage.makeFolder (summaryFolder options) started)
        results last events ∧
      match results with
      | some (http, core) =>
        Reported stage options ⟨timestamp, c, http, core, none⟩ true (stage.stop last).2 ended ∧
          ended.2.events = .start :: p.answers.map .probe ++ events ++ [.stop, .write]
      | none =>
        ended.1 = none ∧ ended.2.world = last ∧
          ended.2.events = .start :: p.answers.map .probe ++ events

theorem finish_reported (stage : Stage σ) (options : SessionOptions) (report : Report)
    (success : Bool) (s : Session σ) :
    Reported stage options report success s.world (s.finish stage options report success) ∧
      (s.finish stage options report success).2.events = s.events ++ [.write] ∧
      (s.finish stage options report success).2.channel = s.channel := by
  rw [Reported, finish]
  cases stage.write report options.output s.world with
  | ok last => exact ⟨⟨rfl, rfl⟩, rfl, rfl⟩
  | error fault => exact ⟨⟨rfl, rfl⟩, rfl, rfl⟩

section

variable (stage : Stage σ) (options : SessionOptions) (report : Report) (s : Session σ)
  {gate : HealthGate} {p : HealthGate.Probes}

theorem awaitReady_of_probes (ended : gate.probes? s.channel = some p) :
    s.awaitReady gate =
      (some p.ready, ⟨p.channel, s.world, s.events ++ p.answers.map .probe⟩) := by
  rw [awaitReady, ended]

theorem attend_endless (endless : gate.probes? s.channel = none) :
    s.attend stage options gate report = (none, s.happen .endlessProbes) := by
  have waited : s.awaitReady gate = (none, s.happen .endlessProbes) := by
    rw [awaitReady, endless]
  rw [attend, waited]

theorem attend_unready (ended : gate.probes? s.channel = some p) (silent : p.ready = false) :
    Reported stage options { report with failure := some .serverNotReady } false
        (stage.stop s.world).2 (s.attend stage options gate report) ∧
      (s.attend stage options gate report).2.events =
        s.events ++ p.answers.map .probe ++ [.stop, .write] := by
  have waited := awaitReady_of_probes s ended
  rw [silent] at waited
  simp only [attend, waited]
  obtain ⟨reported, events, -⟩ := finish_reported stage options
    { report with failure := some .serverNotReady } false
    (stop stage ⟨p.channel, s.world, s.events ++ p.answers.map .probe⟩)
  refine ⟨reported, events.trans ?_⟩
  simp [stop, happen]

theorem attend_ready (ended : gate.probes? s.channel = some p) (answered : p.ready = true) :
    ∃ results last events,
      Performed stage options report.config (commandsOf report.config options)
        (stage.makeFolder (summaryFolder options) s.world)
        results last events ∧
      match results with
      | some (scenarios, commands) =>
        Reported stage options { report with scenarios, commands } true (stage.stop last).2
            (s.attend stage options gate report) ∧
          (s.attend stage options gate report).2.events =
            s.events ++ p.answers.map .probe ++ events ++ [.stop, .write]
      | none =>
        (s.attend stage options gate report).1 = none ∧
          (s.attend stage options gate report).2.world = last ∧
          (s.attend stage options gate report).2.events =
            s.events ++ p.answers.map .probe ++ events := by
  have waited := awaitReady_of_probes s ended
  rw [answered] at waited
  obtain ⟨results, last, events, performed, run⟩ := perform_cases stage options report.config
    ⟨p.channel, s.world, s.events ++ p.answers.map .probe⟩
  refine ⟨results, last, events, performed, ?_⟩
  rcases results with _ | ⟨scenarios, commands⟩
  · simp only [attend, waited, run]
    exact ⟨trivial, trivial, trivial⟩
  · simp only [attend, waited, run]
    obtain ⟨reported, written, -⟩ := finish_reported stage options
      { report with scenarios, commands } true
      (stop stage ⟨p.channel, last, s.events ++ p.answers.map .probe ++ events⟩)
    refine ⟨reported, written.trans ?_⟩
    simp [stop, happen]

end

def Consistent (ended : Option (Except IoFault SessionOutcome) × Session σ) : Prop :=
  ∀ outcome, ended.1 = some (.ok outcome) → outcome.success = outcome.report.isComplete

theorem finish_consistent (stage : Stage σ) (options : SessionOptions) {report : Report}
    {success : Bool} (s : Session σ) (agrees : success = report.isComplete) :
    Consistent (s.finish stage options report success) := by
  intro outcome ended
  rw [finish] at ended
  cases written : stage.write report options.output s.world with
  | ok world =>
    simp only [written, Option.some.injEq, Except.ok.injEq] at ended
    rw [← ended]
    exact agrees
  | error fault =>
    simp only [written, Option.some.injEq, reduceCtorEq] at ended

theorem attend_consistent (stage : Stage σ) (options : SessionOptions) (gate : HealthGate)
    {report : Report} (s : Session σ) (whole : report.isComplete) :
    Consistent (s.attend stage options gate report) := by
  rcases waited : s.awaitReady gate with ⟨_ | _ | _, later⟩
  · simp only [attend, waited]
    intro outcome ended
    cases ended
  · simp only [attend, waited]
    exact finish_consistent stage options _ rfl
  · rcases run : later.perform stage options report.config with ⟨_ | results, last⟩
    · simp only [attend, waited, run]
      intro outcome ended
      cases ended
    · simp only [attend, waited, run]
      exact finish_consistent stage options _ whole.symm

theorem conduct_consistent (stage : Stage σ) (options : SessionOptions) (timestamp : String)
    (c : SessionConfig) (s : Session σ) :
    Consistent (conduct stage options timestamp c s) := by
  cases started : stage.start c.server.startCommand s.world with
  | error fault =>
    simp only [conduct, started]
    exact finish_consistent stage options _ rfl
  | ok world =>
    simp only [conduct, started]
    exact attend_consistent stage options _ _ rfl

/-- What a session comes to is settled by whether its service starts, whether it gets ready, and
what the scenarios and commands come to. -/
theorem conduct_conducted (stage : Stage σ) (options : SessionOptions) (timestamp : String)
    (c : SessionConfig) (channel : Channel) (world : σ) :
    let patience := Duration.ofSeconds c.server.startupTimeoutSecs
    Conducted stage options timestamp c
      ⟨Http.Url.join c.server.baseUrl c.server.healthPath, patience, options.pollInterval,
        min (Duration.ofSeconds 2) patience⟩
      channel world (conduct stage options timestamp c (.begin channel world)) where
  unstarted := by
    intro fault refused
    have reported := finish_reported stage options
      ⟨timestamp, c, [], [], some .serverStartFailed⟩ false (.begin channel world)
    simp only [conduct, begin, refused] at reported ⊢
    exact ⟨.serverStartFailed, rfl, reported⟩
  endless := by
    intro started launched endless
    simp only [conduct, begin, launched]
    rw [attend_endless stage options (Report.empty timestamp c) _ endless]
    exact ⟨rfl, rfl, rfl⟩
  unready := by
    intro started p launched ended silent
    simp only [conduct, begin, launched]
    exact ⟨.serverNotReady, rfl, attend_unready stage options (Report.empty timestamp c)
      (happen .start ⟨channel, started, []⟩) ended silent⟩
  ready := by
    intro started p launched ended answered
    simp only [conduct, begin, launched]
    exact attend_ready stage options (Report.empty timestamp c)
      (happen .start ⟨channel, started, []⟩) ended answered

end LoadBench.Session
