import LoadBench.Session.Executor
import LoadBench.Session.Stage

namespace LoadBench

structure Host where
  files : Files
  channel : Channel
  service : Option Guard

/-- How scenarios are run; `none` for one that never ends. -/
abbrev Executor := String → RunConfig → Host → Option (ScenarioResult × Host)

namespace Executor

def within : Executor := fun name c host =>
  (runWithin name c host.files host.channel).map fun
    | (result, files, channel) => (result, { host with files, channel })

def program (program : String) (leading : List String) : Executor := fun name c host =>
  match runProgram program leading name c host.files with
  | (result, files) => some (result, { host with files })

end Executor

def startService (files : Files) (command : String) : Except ServiceFault Shell.Launched :=
  match Shell.Launched.script files command with
  | .ok launched => .ok launched
  | .error fault => .error (.start command fault)

namespace Host

def ofFiles (files : Files) (channel : Channel) : Host := ⟨files, channel, none⟩

def start (command : String) (host : Host) : Except ServiceFault Host :=
  match startService host.files command with
  | .ok launched =>
    .ok { host with service := some (Guard.ofFate launched.fate Guard.defaultGrace true) }
  | .error fault => .error fault

def stop (host : Host) : Except ServiceFault ExitStatus × Host :=
  match host.service with
  | some guard => (.ok (guard.shutdown 0).1, { host with service := none })
  | none => (.error (.io .missing), host)

def makeFolder (path : String) (host : Host) : Host :=
  { host with files := (Files.makeFolders (path.length + 1) host.files path).2 }

def command (text : String) (host : Host) : CommandResult × Host :=
  match runCommand text host.files with
  | (result, files) => (result, { host with files })

def write (report : Report) (path : String) (host : Host) : Except IoFault Host :=
  match report.write host.files path with
  | .ok files => .ok { host with files }
  | .error fault => .error fault

def stage (executor : Executor) : Stage Host where
  start := Host.start
  makeFolder := Host.makeFolder
  scenario := executor
  command := fun text host => some (host.command text)
  stop := Host.stop
  write := Host.write

end Host

end LoadBench
