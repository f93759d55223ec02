import LoadBench.Run.Benchmark
import LoadBench.Session.Report
import LoadBench.Shell.Launch

namespace LoadBench

open Text Text.Utf8

def noExitCode : Int := -1

def exitCodeOf (status : ExitStatus) : Int :=
  match status.code? with
  | some n => n
  | none => noExitCode

def spawnFailure (fault : IoFault) : String := "failed to spawn: " ++ fault.message

def outputTail (n : Nat) (bytes : Bytes) : String := tailLines n (decodeLossy bytes)

def RunSummary.shown (s : RunSummary) : String := s.pretty ++ "\n\nSummary\n" ++ s.table

namespace ScenarioResult

def benchCommand (c : RunConfig) : String := "surgedb-perf bench " ++ " ".intercalate c.arguments

def ofSummary (name : String) (c : RunConfig) (s : RunSummary) : ScenarioResult where
  name
  command := benchCommand c
  exitCode := 0
  stdoutTail := tailLines scenarioTail s.shown
  stderrTail := ""
  metrics := some s.json.sorted

def ofFault (name : String) (c : RunConfig) (fault : RunFault) : ScenarioResult where
  name
  command := benchCommand c
  exitCode := 1
  stdoutTail := ""
  stderrTail := tailLines scenarioTail fault.message
  metrics := none

end ScenarioResult

def RunConfig.record (c : RunConfig) (s : RunSummary) (files : Files) : Except IoFault Files :=
  match c.output with
  | some path => s.write files path
  | none => .ok files

def RunConfig.leftovers (c : RunConfig) (files : Files) : Files :=
  match c.output with
  | some path => files.withParent path
  | none => files

/-- A run with its summary written, if it ends. The files change only if the run has a summary. -/
def recordRun (c : RunConfig) (files : Files) (ch : Channel) :
    Option (Except RunFault RunSummary × Files × Channel) :=
  (benchmark c ch).map fun
    | (.error fault, ch) => (.error fault, files, ch)
    | (.ok summary, ch) =>
      match c.record summary files with
      | .error fault => (.error (.io fault), c.leftovers files, ch)
      | .ok files => (.ok summary, files, ch)

/-- Runs a scenario within the own process; `none` if it never ends. -/
def runWithin (name : String) (c : RunConfig) (files : Files) (ch : Channel) :
    Option (ScenarioResult × Files × Channel) :=
  (recordRun c files ch).map fun
    | (.ok summary, files, ch) => (.ofSummary name c summary, files, ch)
    | (.error fault, files, ch) => (.ofFault name c fault, files, ch)

def readMetrics (files : Files) (path : String) : Option Json :=
  match files.readText path with
  | .ok text => Json.Reader.document? text >>= Document.freeJson?
  | .error _ => none

def runProgram (program : String) (leading : List String) (name : String) (c : RunConfig)
    (files : Files) : ScenarioResult × Files :=
  let args := leading ++ c.arguments
  let command := " ".intercalate (program :: args)
  match Shell.execute files program args with
  | .error fault => (⟨name, command, noExitCode, "", spawnFailure fault, none⟩, files)
  | .ok ended =>
    let code := exitCodeOf ended.status
    let metrics := if code == 0 then c.output >>= readMetrics ended.files else none
    (⟨name, command, code, outputTail scenarioTail ended.output,
      outputTail scenarioTail ended.errors, metrics⟩, ended.files)

def runCommand (command : String) (files : Files) : CommandResult × Files :=
  match Shell.execute files "sh" ["-c", command] with
  | .error fault => (⟨command, noExitCode, "", spawnFailure fault⟩, files)
  | .ok ended =>
    (⟨command, exitCodeOf ended.status, outputTail commandTail ended.output,
      outputTail commandTail ended.errors⟩, ended.files)

end LoadBench
