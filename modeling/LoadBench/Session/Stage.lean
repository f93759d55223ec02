import LoadBench.Session.Guard
import LoadBench.Session.Health
import LoadBench.Session.Report

namespace LoadBench

/-- What a session acts on, with what may come of each act. -/
structure Stage (σ : Type) where
  start : String → σ → Except ServiceFault σ
  makeFolder : String → σ → σ
  scenario : String → RunConfig → σ → Option (ScenarioResult × σ)
  command : String → σ → Option (CommandResult × σ)
  stop : σ → Except ServiceFault ExitStatus × σ
  write : Report → String → σ → Except IoFault σ

inductive SessionEvent where
  | start
  | probe (answer : Http.Outcome)
  | endlessProbes
  | scenario (name : String) (config : RunConfig) (result : Option ScenarioResult)
  | command (text : String) (result : Option CommandResult)
  | stop
  | write

structure SessionOptions where
  output : String
  skipCore : Bool
  pollInterval : Duration
deriving DecidableEq

def SessionOptions.ofOutput (output : String) : SessionOptions :=
  ⟨output, false, HealthGate.defaultPollInterval⟩

structure SessionOutcome where
  report : Report
  success : Bool

structure Session (σ : Type) where
  channel : Channel
  world : σ
  events : List SessionEvent

namespace Session

variable {σ : Type}

def begin (channel : Channel) (world : σ) : Session σ := ⟨channel, world, []⟩

def happen (event : SessionEvent) (s : Session σ) : Session σ :=
  { s with events := s.events ++ [event] }

/-- The gate for the service of a session. No probe takes longer than the service has to start. -/
def gate (c : SessionConfig) (options : SessionOptions) : HealthGate :=
  { HealthGate.ofServer c.server.baseUrl c.server.healthPath c.startupTimeout with
    pollInterval := options.pollInterval
    probeTimeout := min HealthGate.defaultProbeTimeout c.startupTimeout }

def awaitReady (gate : HealthGate) (s : Session σ) : Option Bool × Session σ :=
  match gate.probes? s.channel with
  | none => (none, s.happen .endlessProbes)
  | some p => (some p.ready,
      { s with channel := p.channel, events := s.events ++ p.answers.map .probe })

def inTurn {α β : Type} (act : α → σ → Option (β × σ)) (event : α → Option β → SessionEvent) :
    List α → Session σ → Option (List β) × Session σ
  | [], s => (some [], s)
  | job :: rest, s =>
    match act job s.world with
    | none => (none, s.happen (event job none))
    | some (result, world) =>
      match inTurn act event rest ({ s with world }.happen (event job (some result))) with
      | (results, s) => (results.map (result :: ·), s)

def runScenarios (stage : Stage σ) (options : SessionOptions) (c : SessionConfig) :
    Session σ → Option (List ScenarioResult) × Session σ :=
  inTurn (fun scenario => stage.scenario scenario.name (c.recordedRun options.output scenario))
    (fun scenario => .scenario scenario.name (c.recordedRun options.output scenario))
    c.traffic.scenarios

def commandsOf (c : SessionConfig) (options : SessionOptions) : List String :=
  if c.core.enabled && !options.skipCore then c.core.commands else []

def runCommands (stage : Stage σ) (options : SessionOptions) (c : SessionConfig) :
    Session σ → Option (List CommandResult) × Session σ :=
  inTurn stage.command .command (commandsOf c options)

def stop (stage : Stage σ) (s : Session σ) : Session σ :=
  { s with world := (stage.stop s.world).2 }.happen .stop

def finish (stage : Stage σ) (options : SessionOptions) (report : Report) (success : Bool)
    (s : Session σ) : Option (Except IoFault SessionOutcome) × Session σ :=
  match stage.write report options.output s.world with
  | .ok world => (some (.ok ⟨report, success⟩), { s with world }.happen .write)
  | .error fault => (some (.error fault), s.happen .write)

def prepare (stage : Stage σ) (options : SessionOptions) (s : Session σ) : Session σ :=
  { s with world := stage.makeFolder (SessionConfig.scenarioFolder options.output) s.world }

def perform (stage : Stage σ) (options : SessionOptions) (c : SessionConfig) (s : Session σ) :
    Option (List ScenarioResult × List CommandResult) × Session σ :=
  match (s.prepare stage options).runScenarios stage options c with
  | (none, s) => (none, s)
  | (some scenarios, s) =>
    match s.runCommands stage options c with
    | (commands, s) => (commands.map (scenarios, ·), s)

def attend (stage : Stage σ) (options : SessionOptions) (gate : HealthGate) (report : Report)
    (s : Session σ) : Option (Except IoFault SessionOutcome) × Session σ :=
  match s.awaitReady gate with
  | (none, s) => (none, s)
  | (some false, s) =>
    (s.stop stage).finish stage options { report with failure := some .serverNotReady } false
  | (some true, s) =>
    match s.perform stage options report.config with
    | (none, s) => (none, s)
    | (some (scenarios, commands), s) =>
      (s.stop stage).finish stage options { report with scenarios, commands } true

/-- Conducts a session. It does not end if its probes, one of its scenarios or one of its commands
never do; the one error is that the report cannot be written. -/
def conduct (stage : Stage σ) (options : SessionOptions) (timestamp : String) (c : SessionConfig)
    (s : Session σ) : Option (Except IoFault SessionOutcome) × Session σ :=
  let report := Report.empty timestamp c
  match stage.start c.server.startCommand s.world with
  | .error _ => s.finish stage options { report with failure := some .serverStartFailed } false
  | .ok world => ({ s with world }.happen .start).attend stage options (gate c options) report

def run (stage : Stage σ) (options : SessionOptions) (timestamp : String) (c : SessionConfig)
    (s : Session σ) : Option (Except IoFault Report × Session σ) :=
  match conduct stage options timestamp c s with
  | (some result, s) => some (result.map (·.report), s)
  | (none, _) => none

end Session

namespace Report

def isComplete (r : Report) : Bool := r.failure.isNone

end Report

end LoadBench
