import LoadBench.Config.Run
import LoadBench.Path
import LoadBench.Text.Blank

namespace LoadBench

structure ServerConfig where
  startCommand : String
  healthPath : String
  startupTimeoutSecs : Nat
  baseUrl : String
deriving DecidableEq

structure Scenario where
  name : String
  mode : Mode
  useFilter : Bool
  filterType : Option FilterType
  noMetadata : Bool
deriving DecidableEq

structure TrafficConfig where
  collection : String
  dimensions : Nat
  prefill : Nat
  durationSecs : Nat
  concurrency : Nat
  distance : String
  quantization : Quantization
  batchSize : Nat
  searchK : Nat
  searchRatio : Binary64
  insertRatio : Binary64
  seed : Nat
  scenarios : List Scenario
deriving DecidableEq

structure CoreConfig where
  enabled : Bool
  commands : List String
deriving DecidableEq

structure SessionConfig where
  server : ServerConfig
  traffic : TrafficConfig
  core : CoreConfig
deriving DecidableEq

namespace SessionConfig

def run (c : SessionConfig) (s : Scenario) : RunConfig where
  baseUrl := c.server.baseUrl
  collection := c.traffic.collection
  dimensions := c.traffic.dimensions
  distance := c.traffic.distance
  quantization := c.traffic.quantization
  prefill := c.traffic.prefill
  batchSize := c.traffic.batchSize
  mode := s.mode
  durationSecs := c.traffic.durationSecs
  concurrency := c.traffic.concurrency
  searchK := c.traffic.searchK
  searchRatio := c.traffic.searchRatio
  insertRatio := c.traffic.insertRatio
  useFilter := s.useFilter
  filterType := s.filterType.getD .exact
  includeMetadata := !s.noMetadata
  seed := c.traffic.seed
  requestTimeoutSecs := RunConfig.default.requestTimeoutSecs
  output := none

def startupTimeout (c : SessionConfig) : Duration := Duration.ofSeconds c.server.startupTimeoutSecs

def scenarioFolder (report : String) : String :=
  Path.join ((Path.parent? report).getD "") "_scenario_outputs"

def scenarioFile (report : String) (s : Scenario) : String :=
  Path.join (scenarioFolder report) (s.name ++ ".json")

/-- The run of a scenario with its summary written next to the report. -/
def recordedRun (c : SessionConfig) (report : String) (s : Scenario) : RunConfig :=
  { c.run s with output := some (scenarioFile report s) }

inductive Fault where
  | emptyStartCommand
  | zeroStartupTimeout
  | relativeHealthPath
  | invalidName (name : String)
  | duplicateName (name : String)
  | run (name : String) (fault : RunConfig.Fault)
deriving DecidableEq

def Fault.message : Fault → String
  | .emptyStartCommand => "server.start_cmd cannot be empty"
  | .zeroStartupTimeout => "server.startup_timeout_secs must be > 0"
  | .relativeHealthPath => "server.health_path must start with '/'"
  | .invalidName name => "invalid scenario name '" ++ name ++ "'"
  | .duplicateName name => "duplicate scenario name '" ++ name ++ "'"
  | .run name fault => "scenario '" ++ name ++ "': " ++ fault.message

def isName (name : String) : Bool :=
  name != "" && !name.toList.any (fun c => c == '/' || c == '\\') && !name.startsWith "."

def scenarioFault? (c : SessionConfig) (seen : List String) : List Scenario → Option Fault
  | [] => none
  | s :: rest =>
    if !isName s.name then some (.invalidName s.name)
    else if seen.contains s.name then some (.duplicateName s.name)
    else
      match (c.run s).fault? with
      | some fault => some (.run s.name fault)
      | none => scenarioFault? c (s.name :: seen) rest

def serverFault? (server : ServerConfig) : Option Fault :=
  if Text.allBlank server.startCommand then some .emptyStartCommand
  else if server.startupTimeoutSecs = 0 then some .zeroStartupTimeout
  else if !server.healthPath.startsWith "/" then some .relativeHealthPath
  else none

def fault? (c : SessionConfig) : Option Fault :=
  (serverFault? c.server).orElse fun _ => scenarioFault? c [] c.traffic.scenarios

end SessionConfig

open Document

def ServerConfig.ofDocument? (dialect : Dialect) (d : Document) : Option ServerConfig := do
  let fields ← d.fields? dialect ["start_cmd", "health_path", "startup_timeout_secs", "base_url"]
  return {
    startCommand := ← fields.required "start_cmd" text?
    healthPath := ← fields.defaulted "health_path" "/health" text?
    startupTimeoutSecs := ← fields.defaulted "startup_timeout_secs" 60 word?
    baseUrl := ← fields.defaulted "base_url" RunConfig.default.baseUrl text? }

def Scenario.ofDocument? (dialect : Dialect) (d : Document) : Option Scenario := do
  let fields ← d.fields? dialect ["name", "mode", "use_filter", "filter_type", "no_metadata"]
  return {
    name := ← fields.required "name" text?
    mode := ← fields.defaulted "mode" .search (Choice.ofDocument? dialect)
    useFilter := ← fields.defaulted "use_filter" false bool?
    filterType := ← fields.defaulted "filter_type" none
      (Fields.orNull (Choice.ofDocument? dialect))
    noMetadata := ← fields.defaulted "no_metadata" false bool? }

def TrafficConfig.ofDocument? (dialect : Dialect) (d : Document) : Option TrafficConfig := do
  let fields ← d.fields? dialect
    ["collection", "dimensions", "prefill", "duration", "concurrency", "distance", "quantization",
      "batch_size", "search_k", "search_ratio", "insert_ratio", "seed", "scenarios"]
  let base := RunConfig.default
  return {
    collection := ← fields.required "collection" text?
    dimensions := ← fields.required "dimensions" word?
    prefill := ← fields.required "prefill" word?
    durationSecs := ← fields.required "duration" word?
    concurrency := ← fields.required "concurrency" word?
    distance := ← fields.defaulted "distance" base.distance text?
    quantization := ← fields.defaulted "quantization" base.quantization
      (Choice.ofDocument? dialect)
    batchSize := ← fields.defaulted "batch_size" base.batchSize word?
    searchK := ← fields.defaulted "search_k" base.searchK word?
    searchRatio := ← fields.defaulted "search_ratio" base.searchRatio float?
    insertRatio := ← fields.defaulted "insert_ratio" base.insertRatio float?
    seed := ← fields.defaulted "seed" base.seed word?
    scenarios := ← fields.defaulted "scenarios" [] (list? (Scenario.ofDocument? dialect)) }

def CoreConfig.default : CoreConfig := ⟨true, []⟩

def CoreConfig.ofDocument? (dialect : Dialect) (d : Document) : Option CoreConfig := do
  let fields ← d.fields? dialect ["enabled", "bench_cmds"]
  return {
    enabled := ← fields.defaulted "enabled" true bool?
    commands := ← fields.defaulted "bench_cmds" [] (list? text?) }

def SessionConfig.ofDocument? (dialect : Dialect) (d : Document) : Option SessionConfig := do
  let fields ← d.fields? dialect ["server", "http", "core"]
  return {
    server := ← fields.required "server" (ServerConfig.ofDocument? dialect)
    traffic := ← fields.required "http" (TrafficConfig.ofDocument? dialect)
    core := ← fields.defaulted "core" CoreConfig.default (CoreConfig.ofDocument? dialect) }

def Scenario.json (s : Scenario) : Json := .object [
  ("name", .text s.name),
  ("mode", Choice.json s.mode),
  ("use_filter", .bool s.useFilter),
  ("filter_type", Json.optional Choice.json s.filterType),
  ("no_metadata", .bool s.noMetadata)]

def ServerConfig.json (c : ServerConfig) : Json := .object [
  ("start_cmd", .text c.startCommand),
  ("health_path", .text c.healthPath),
  ("startup_timeout_secs", .nat c.startupTimeoutSecs),
  ("base_url", .text c.baseUrl)]

def TrafficConfig.json (c : TrafficConfig) : Json := .object [
  ("collection", .text c.collection),
  ("dimensions", .nat c.dimensions),
  ("prefill", .nat c.prefill),
  ("duration", .nat c.durationSecs),
  ("concurrency", .nat c.concurrency),
  ("distance", .text c.distance),
  ("quantization", Choice.json c.quantization),
  ("batch_size", .nat c.batchSize),
  ("search_k", .nat c.searchK),
  ("search_ratio", .number c.searchRatio),
  ("insert_ratio", .number c.insertRatio),
  ("seed", .nat c.seed),
  ("scenarios", .list (c.scenarios.map Scenario.json))]

def CoreConfig.json (c : CoreConfig) : Json := .object [
  ("enabled", .bool c.enabled),
  ("bench_cmds", .list (c.commands.map .text))]

def SessionConfig.json (c : SessionConfig) : Json := .object [
  ("server", c.server.json),
  ("http", c.traffic.json),
  ("core", c.core.json)]

end LoadBench
