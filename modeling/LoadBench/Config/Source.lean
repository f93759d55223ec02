import LoadBench.Config.Session
import LoadBench.Files
import LoadBench.Text.Quoted
import LoadBench.Toml.Reader

namespace LoadBench

open Text

structure Overrides where
  baseUrl : Option String
  startCommand : Option String
  duration : Option String
  concurrency : Option String
deriving DecidableEq

def Overrides.variableName (setting : String) : String := "SURGEDB_PERF_" ++ setting

def Overrides.ofEnvironment (find : String → Option String) : Overrides where
  baseUrl := find (variableName "BASE_URL")
  startCommand := find (variableName "START_CMD")
  duration := find (variableName "DURATION")
  concurrency := find (variableName "CONCURRENCY")

namespace SessionConfig

/-- The configuration with its overrides. A number that does not read as a machine word overrides
nothing. -/
def override (o : Overrides) (c : SessionConfig) : SessionConfig where
  server := { c.server with
    baseUrl := o.baseUrl.getD c.server.baseUrl
    startCommand := o.startCommand.getD c.server.startCommand }
  traffic := { c.traffic with
    durationSecs := (o.duration >>= Numeral.word?).getD c.traffic.durationSecs
    concurrency := (o.concurrency >>= Numeral.word?).getD c.traffic.concurrency }
  core := c.core

def ofToml? (text : String) : Option SessionConfig :=
  Toml.Reader.document? text >>= ofDocument? Toml.dialect

end SessionConfig

inductive ConfigError where
  | unreadable (path : String) (fault : IoFault)
  | malformed (path : String)
  | run (fault : RunConfig.Fault)
  | session (fault : SessionConfig.Fault)
  | unknownName (message : String)

def ConfigError.invalid (message : String) : String :=
  "Configuration validation failed: " ++ message

def ConfigError.message : ConfigError → String
  | .unreadable path fault =>
    "Failed to read config file " ++ Quoted.quote path ++ ": " ++ fault.message
  | .malformed path => "Failed to parse TOML in " ++ Quoted.quote path
  | .run fault => invalid fault.message
  | .session fault => invalid fault.message
  | .unknownName message => invalid message

namespace SessionConfig

def read (files : Files) (path : String) : Except ConfigError SessionConfig :=
  match files.readText path with
  | .error fault => .error (.unreadable path fault)
  | .ok text =>
    match ofToml? text with
    | some c => .ok c
    | none => .error (.malformed path)

def load (files : Files) (path : String) (o : Overrides) : Except ConfigError SessionConfig :=
  match read files path with
  | .error e => .error e
  | .ok c =>
    match (c.override o).fault? with
    | some fault => .error (.session fault)
    | none => .ok (c.override o)

end SessionConfig

end LoadBench
