import LoadBench.Files
import LoadBench.Shell.Script
import LoadBench.Signal
import LoadBench.Text.Numeral

namespace LoadBench.Shell

open Text Text.Utf8

structure Emission where
  time : Instant
  stream : Nat
  bytes : Bytes

inductive Change where
  | truncate (path : String)
  | append (path : String) (bytes : Bytes)
  | remove (path : String)
  | addFolder (path : String)

namespace Change

def apply (files : Files) (change : Change) : Files :=
  let after := match change with
    | .truncate path => files.write path []
    | .append path bytes => files.write path ((files.read path).toOption.getD [] ++ bytes)
    | .remove path => do return ⟨files.entries.filter (·.1 != (← files.place path))⟩
    | .addFolder path => Files.createFolders (path.length + 1) files path
  match after with
  | .ok after => after
  | .error _ => files

end Change

inductive Sink where
  | stream (id : Nat)
  | file (path : String)
  | nowhere

abbrev Fates := List (Nat × Option (Instant × ExitStatus))

structure Outcome where
  ended : Option (Instant × ExitStatus)
  emissions : List Emission
  changes : List (Instant × Change)
  fates : Fates
  sentUp : List Delivery

structure Job where
  pid : Nat
  run : List Delivery → Outcome
  signals : List Delivery
  outcome : Outcome

inductive Flow where
  | next
  | exit (code : Nat)
  | died (signal : Signal)
  | leave (inner : Nat)
  | again (inner : Nat)
  | returned
  | cut
deriving DecidableEq

/-- A shell on a virtual clock. What it does to the world is kept with the time at which it happens,
because what it has started in the background goes on beside it: a job is run to its end when it is
started, and run again if a signal reaches it later. -/
structure State where
  now : Instant
  horizon : Instant
  name : String
  params : List String
  line : Nat
  options : List Char
  bindings : List (String × String)
  exported : List String
  functions : List (String × Command)
  /-- What is run when a signal comes or, without one, at the end. An empty action ignores it. -/
  traps : List (Option Signal × String)
  status : Nat
  tested : Bool
  loops : Nat
  pid : Nat
  isSubshell : Bool
  nextPid : Nat
  lastJob : Option Nat
  jobs : List Job
  fates : Fates
  input : Bytes
  sinks : List (Nat × Sink)
  nextStream : Nat
  emissions : List Emission
  changes : List (Instant × Change)
  inbox : List Delivery
  sentUp : List Delivery
  files : Files
  folder : String

namespace State

def standardOutput : Nat := 1

def standardError : Nat := 2

def pass (d : Duration) (s : State) : State := { s with now := s.now + d }

def builtinTime : Duration := 500000

def programTime : Duration := 1000000

def allChanges (s : State) : List (Instant × Change) :=
  s.changes ++ s.jobs.flatMap (·.outcome.changes)

def applyChanges (files : Files) (changes : List (Instant × Change)) : Files :=
  ((changes.mergeSort fun a b => a.1 ≤ b.1).map (·.2)).foldl Change.apply files

def view (s : State) : Files :=
  applyChanges s.files (s.allChanges.filter (·.1 ≤ s.now))

def path (s : State) (p : String) : String := if p = "" then "" else Path.join s.folder p

def change (c : Change) (s : State) : State := { s with changes := s.changes ++ [(s.now, c)] }

def sink (s : State) (descriptor : Nat) : Option Sink := s.sinks.lookup descriptor

def setSink (descriptor : Nat) (sink : Sink) (s : State) : State :=
  { s with sinks := (descriptor, sink) :: s.sinks.filter (·.1 != descriptor) }

def emit (descriptor : Nat) (bytes : Bytes) (s : State) : State :=
  if bytes.isEmpty then s
  else
    match s.sink descriptor with
    | some (.stream id) => { s with emissions := ⟨s.now, id, bytes⟩ :: s.emissions }
    | some (.file p) => s.change (.append p bytes)
    | some .nowhere => s
    | none => s

def say (text : String) (s : State) : State := s.emit standardOutput (encode text)

def complain (text : String) (s : State) : State :=
  s.emit standardError
    (encode (s.name ++ ": " ++ Numeral.toString s.line ++ ": " ++ text ++ "\n"))

def withStatus (code : Nat) (s : State) : State := { s with status := code }

def setVariable (name value : String) (s : State) : State :=
  { s with bindings := (name, value) :: s.bindings.filter (·.1 != name) }

def value? (s : State) (name : String) : Option String :=
  if name == "#" then some (Numeral.toString s.params.length)
  else if name == "?" then some (Numeral.toString s.status)
  else if name == "$" then some (Numeral.toString s.pid)
  else if name == "!" then s.lastJob.map Numeral.toString
  else if name == "-" then some (String.ofList s.options)
  else if name == "@" || name == "*" then
    if s.params.isEmpty then none else some (" ".intercalate s.params)
  else if Numeral.allDigits name.toList then
    match Numeral.value name.toList with
    | 0 => some s.name
    | n + 1 => s.params[n]?
  else s.bindings.lookup name

def trap? (s : State) (signal : Option Signal) : Option String := s.traps.lookup signal

def ignores (s : State) (signal : Signal) : Bool :=
  signal != .kill && s.trap? (some signal) == some ""

def setTrap (signal : Option Signal) (action : Option String) (s : State) : State :=
  let others := s.traps.filter (·.1 != signal)
  { s with traps := match action with
    | some action => (signal, action) :: others
    | none => others }

def receive (deliveries : List Delivery) (s : State) : State :=
  { s with inbox := (s.inbox ++ deliveries).mergeSort fun a b => a.time ≤ b.time }

def signalShell (deliveries : List Delivery) (s : State) : State :=
  if s.isSubshell then { s with sentUp := s.sentUp ++ deliveries } else s.receive deliveries

def fatal? (s : State) (ended : Option Instant) : Option Delivery :=
  s.inbox.find? fun d =>
    ended.all (d.time ≤ ·) && (d.signal == .kill || (s.trap? (some d.signal)).isNone)

def groupSignals (s : State) : List Delivery :=
  s.inbox.filter fun d => d.toGroup && s.now < d.time

/-- A shell like this one with nothing of its own yet. It ignores what this one ignores. -/
def fork (s : State) : State :=
  { s with
    isSubshell := true
    files := s.view
    sentUp := []
    traps := s.traps.filter (·.2 == "")
    jobs := []
    fates := []
    nextPid := s.nextPid + 1
    emissions := []
    changes := []
    inbox := s.groupSignals }

def jobFates (s : State) : Fates :=
  s.fates ++ s.jobs.flatMap fun j => (j.pid, j.outcome.ended) :: j.outcome.fates

def outcome (flow : Flow) (s : State) : Outcome where
  ended := match flow with
    | .cut => none
    | .exit code => some (s.now, .code (code % 256))
    | .died signal => some (s.now, .signal signal)
    | _ => some (s.now, .code (s.status % 256))
  emissions := s.emissions.reverse ++ s.jobs.flatMap (·.outcome.emissions)
  changes := s.allChanges
  fates := s.jobFates
  sentUp := s.sentUp

def join (s child : State) : State :=
  let s := s.signalShell child.sentUp
  { s with
    emissions :=
      (child.jobs.flatMap (·.outcome.emissions)).reverse ++ child.emissions ++ s.emissions
    changes := s.changes ++ child.allChanges
    fates := s.fates ++ child.jobFates
    nextPid := child.nextPid
    nextStream := child.nextStream }

/-- Sends a signal to a job, which is run again with it. -/
def signalJob (pid : Nat) (signal : Signal) (s : State) : State :=
  { s with jobs := s.jobs.map fun j =>
    if j.pid == pid then
      let signals := j.signals ++ [⟨s.now, signal, false⟩]
      { j with signals, outcome := j.run signals }
    else j }

end State

end LoadBench.Shell
