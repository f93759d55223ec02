import LoadBench.CommandLine.Command
import LoadBench.Session.Host

namespace LoadBench

open Text

structure Surroundings where
  program : String
  environment : String → Option String
  files : Files
  channel : Channel
  timestamp : String
  /-- What this program, given some arguments, writes to its error stream: log lines with the time of
  day, and help for arguments that it refuses. -/
  logged : List String → String := fun _ => ""

structure Completed where
  exitCode : Nat
  output : String
  files : Files
  events : List SessionEvent

namespace Application

def versionLine : String := "surgedb-perf 0.1.0\n"

def stopOutput : CommandLine.Stop → String
  | .version => versionLine
  | _ => ""

def bench (s : Surroundings) (c : RunConfig) : Option Completed :=
  (benchmark c s.channel).map fun ended =>
    match ended.1 with
    | .error _ => ⟨1, "", s.files, []⟩
    | .ok summary =>
      match c.record summary s.files with
      | .ok files => ⟨0, summary.shown, files, []⟩
      | .error _ => ⟨1, summary.shown, c.leftovers s.files, []⟩

def stopped (s : Surroundings) (stop : CommandLine.Stop) : Completed :=
  ⟨stop.exitCode, stopOutput stop, s.files, []⟩

def benchWith (s : Surroundings) (arguments : List String) : Option Completed :=
  match CommandLine.settings CommandLine.benchOptions RunConfig.default arguments with
  | .error stop => some (stopped s stop)
  | .ok c => bench s c

/-- Runs each scenario as this program in a process of its own, which reads its arguments anew. -/
def ownProcess (s : Surroundings) : Executor := fun name c host =>
  let arguments := "bench" :: c.arguments
  (benchWith { s with files := host.files, channel := host.channel } c.arguments).map fun ended =>
    let metrics := if ended.exitCode == 0 then c.output >>= readMetrics ended.files else none
    (⟨name, " ".intercalate (s.program :: arguments), ended.exitCode,
      tailLines scenarioTail ended.output, tailLines scenarioTail (s.logged arguments), metrics⟩,
      { host with files := ended.files })

def sessionOutput (report : Report) (path : String) : String :=
  (match report.failure with
    | some failure => "Run aborted: " ++ Choice.name failure ++ "\n"
    | none => "") ++ "Wrote report to " ++ path ++ "\n"

def session (s : Surroundings) (a : SessionArguments) : Option Completed :=
  match SessionConfig.load s.files a.config (Overrides.ofEnvironment s.environment) with
  | .error _ => some ⟨2, "", s.files, []⟩
  | .ok c =>
    let executor := if a.inProcess then Executor.within else ownProcess s
    let options := { SessionOptions.ofOutput a.output with skipCore := a.skipCore }
    let host := Host.ofFiles s.files s.channel
    match Session.conduct (Host.stage executor) options s.timestamp c (.begin s.channel host) with
    | (none, _) => none
    | (some (.ok outcome), ended) =>
      some ⟨if outcome.success then 0 else 1, sessionOutput outcome.report a.output,
        ended.world.files, ended.events⟩
    | (some (.error _), ended) => some ⟨1, "", ended.world.files, ended.events⟩

/-- Runs the program; `none` if it never ends. -/
def run (s : Surroundings) (args : List String) : Option Completed :=
  match CommandLine.parse args with
  | .error stop => some (stopped s stop)
  | .ok (.bench c) => bench s c
  | .ok (.run a) => session s a

end Application

end LoadBench
