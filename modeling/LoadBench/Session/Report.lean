import LoadBench.Config.Session
import LoadBench.Files
import LoadBench.Json.Printer
import LoadBench.Json.Reader
import LoadBench.Text.Lines

namespace LoadBench

open Text

inductive FailureMarker where
  | serverNotReady
  | serverStartFailed
deriving DecidableEq

instance : Choice FailureMarker where
  noun := "failure marker"
  all := [.serverNotReady, .serverStartFailed]
  name
    | .serverNotReady => "server_not_ready"
    | .serverStartFailed => "server_start_failed"

structure CommandResult where
  command : String
  exitCode : Int
  stdoutTail : String
  stderrTail : String
deriving DecidableEq

structure ScenarioResult where
  name : String
  command : String
  exitCode : Int
  stdoutTail : String
  stderrTail : String
  metrics : Option Json

def scenarioTail : Nat := 10

def commandTail : Nat := 20

structure Report where
  timestamp : String
  config : SessionConfig
  scenarios : List ScenarioResult
  commands : List CommandResult
  failure : Option FailureMarker

def Json.ifPresent (key : String) (value : Option Json) : List (String × Json) :=
  match value with
  | some json => [(key, json)]
  | none => []

def ScenarioResult.succeeded (r : ScenarioResult) : Bool := r.exitCode == 0

def ScenarioResult.json (r : ScenarioResult) : Json := .object ([
  ("name", .text r.name),
  ("cmd", .text r.command),
  ("returncode", .int r.exitCode),
  ("stdout_tail", .text r.stdoutTail),
  ("stderr_tail", .text r.stderrTail)] ++ Json.ifPresent "metrics" r.metrics)

def CommandResult.json (r : CommandResult) : Json := .object [
  ("cmd", .text r.command),
  ("returncode", .int r.exitCode),
  ("stdout_tail", .text r.stdoutTail),
  ("stderr_tail", .text r.stderrTail)]

namespace Report

def empty (timestamp : String) (c : SessionConfig) : Report := ⟨timestamp, c, [], [], none⟩

def allSucceeded (r : Report) : Bool := r.scenarios.all ScenarioResult.succeeded

def json (r : Report) : Json := .object ([
  ("timestamp", .text r.timestamp),
  ("config", r.config.json),
  ("http", .list (r.scenarios.map ScenarioResult.json)),
  ("core", .list (r.commands.map CommandResult.json))] ++
  Json.ifPresent "error" (r.failure.map Choice.json))

def pretty (r : Report) : String := r.json.pretty

def write (r : Report) (files : Files) (path : String) : Except IoFault Files := do
  (← files.createParent path).write path (Utf8.encode r.pretty)

end Report

open Document

def metrics? (d : Document) : Option (Option Json) :=
  d.freeJson?.map fun json =>
    match json with
    | .null => none
    | json => some json

def ScenarioResult.ofDocument? (dialect : Dialect) (d : Document) : Option ScenarioResult := do
  let fields ← d.fields? dialect
    ["name", "cmd", "returncode", "stdout_tail", "stderr_tail", "metrics"]
  return {
    name := ← fields.required "name" text?
    command := ← fields.required "cmd" text?
    exitCode := ← fields.required "returncode" int32?
    stdoutTail := ← fields.required "stdout_tail" text?
    stderrTail := ← fields.required "stderr_tail" text?
    metrics := ← fields.defaulted "metrics" none metrics? }

def CommandResult.ofDocument? (dialect : Dialect) (d : Document) : Option CommandResult := do
  let fields ← d.fields? dialect ["cmd", "returncode", "stdout_tail", "stderr_tail"]
  return {
    command := ← fields.required "cmd" text?
    exitCode := ← fields.required "returncode" int32?
    stdoutTail := ← fields.required "stdout_tail" text?
    stderrTail := ← fields.required "stderr_tail" text? }

def Report.ofDocument? (dialect : Dialect) (d : Document) : Option Report := do
  let fields ← d.fields? dialect ["timestamp", "config", "http", "core", "error"]
  return {
    timestamp := ← fields.required "timestamp" text?
    config := ← fields.required "config" (SessionConfig.ofDocument? dialect)
    scenarios := ← fields.required "http" (list? (ScenarioResult.ofDocument? dialect))
    commands := ← fields.required "core" (list? (CommandResult.ofDocument? dialect))
    failure := ← fields.defaulted "error" none (Fields.orNull (Choice.ofDocument? dialect)) }

def Report.ofJson? (text : String) : Option Report :=
  Json.Reader.document? text >>= ofDocument? Json.dialect

end LoadBench
