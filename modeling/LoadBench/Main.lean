import LoadBench.Application
import LoadBench.Timestamp
import Std.Time.DateTime.Timestamp

namespace LoadBench

def sources (args : List String) : List String :=
  match CommandLine.parse args with
  | .ok (.run a) => [a.config]
  | _ => []

def targets (args : List String) : List String :=
  match CommandLine.parse args with
  | .ok (.run a) => [a.output]
  | .ok (.bench c) => c.output.toList
  | .error _ => []

def fetch (files : Files) (path : String) : IO Files := do
  try
    let content ← IO.FS.readBinFile path
    let files := (files.createParent path).toOption.getD files
    return (files.write path content.toList).toOption.getD files
  catch _ => return files

def store (files : Files) (path : String) : IO Unit := do
  if let .ok content := files.read path then
    if let some parent := Path.parent? path then
      if parent != "" then IO.FS.createDirAll parent
    IO.FS.writeBinFile path ⟨content.toArray⟩

def settings : List String := ["BASE_URL", "START_CMD", "DURATION", "CONCURRENCY"]

end LoadBench

open LoadBench in
/-- The program reads the files that a command names, runs the command, and writes what the command
leaves. It has no way to a service, so every request fails as refused. -/
def main (args : List String) : IO UInt32 := do
  let names := settings.map Overrides.variableName
  let values ← names.mapM fun name => do return (← IO.getEnv name)
  let now ← Std.Time.Timestamp.now
  let files ← (sources args).foldlM fetch ⟨[]⟩
  let ended? := Application.run
    { program := (← IO.appPath).toString
      environment := fun name => ((names.zip values).lookup name).join
      files
      channel := Channel.ofScript (Script.unreachable "connection refused")
      timestamp := Timestamp.text now.toNanosecondsSinceUnixEpoch.val.toNat } args
  let some ended := ended? | return 1
  (targets args).forM (store ended.files)
  IO.print ended.output
  return ended.exitCode.toUInt32
