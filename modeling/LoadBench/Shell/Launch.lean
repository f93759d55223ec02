import LoadBench.Shell.Run

namespace LoadBench.Shell

open Text Text.Utf8

structure Launched where
  pid : Nat
  files : Files
  run : List Delivery → Outcome

namespace Launched

def firstPid : Nat := 1000

def watched : Duration := Duration.ofSeconds 120

def initial (files : Files) (signals : List Delivery) : State where
  now := 0
  horizon := watched
  name := "sh"
  params := []
  line := 1
  options := []
  bindings := []
  exported := []
  functions := []
  traps := []
  status := 0
  tested := false
  loops := 0
  pid := firstPid
  isSubshell := false
  nextPid := firstPid + 1
  lastJob := none
  jobs := []
  fates := []
  input := []
  sinks := [(State.standardOutput, .stream 1), (State.standardError, .stream 2)]
  nextStream := 3
  emissions := []
  changes := []
  inbox := signals
  sentUp := []
  files
  folder := "/"

def fault? (files : Files) (program : String) (args : List String) : Option IoFault :=
  if (program :: args).any fun a => a.toList.contains '\x00' then some .nulInCommand
  else if (Program.find? program).isSome || Call.isShell program then none
  else if program.contains '/' then
    match files.place program with
    | .error fault => some fault
    | .ok place => some (if (files.lookup? place).isSome then .denied else .missing)
  else some .missing

def start (files : Files) (program : String) (args : List String) : Except IoFault Launched :=
  match fault? files program args with
  | some fault => .error fault
  | none =>
    let inner := innerAt deepestRun
    .ok ⟨firstPid, files, fun signals =>
      let (flow, s) := Act.toEnd inner (Call.replace inner program args) (initial files signals)
      s.outcome flow⟩

def script (files : Files) (text : String) : Except IoFault Launched :=
  start files "sh" ["-c", text]

def fate (l : Launched) : Fate := fun signals => (l.run signals).ended

def fates (l : Launched) (signals : List Delivery) : Fates :=
  (l.pid, (l.run signals).ended) :: (l.run signals).fates

def written (o : Outcome) (stream : Nat) : Bytes :=
  ((o.emissions.filter (·.stream == stream)).mergeSort fun a b => a.time ≤ b.time).flatMap (·.bytes)

def filesAt (l : Launched) (signals : List Delivery) (time : Instant) : Files :=
  State.applyChanges l.files ((l.run signals).changes.filter (·.1 ≤ time))

end Launched

structure Finished where
  status : ExitStatus
  output : Bytes
  errors : Bytes
  files : Files

namespace Finished

/-- Runs a program to its end. One that does not end counts as killed. -/
def ofLaunched (l : Launched) : Finished :=
  let o := l.run []
  { status := (o.ended.map (·.2)).getD (.signal .kill)
    output := Launched.written o State.standardOutput
    errors := Launched.written o State.standardError
    files := State.applyChanges l.files o.changes }

end Finished

def execute (files : Files) (program : String) (args : List String) : Except IoFault Finished :=
  (Launched.start files program args).map Finished.ofLaunched

end LoadBench.Shell
