import LoadBench.Shell.Expansion
import LoadBench.Shell.Reader
import LoadBench.Shell.State

namespace LoadBench.Shell

open Text

/-- A step of a shell. What ends a script or a loop before its end is thrown. -/
abbrev Act := ExceptT Flow (StateM State)

structure Inner where
  items : List Item → Act Unit
  marks : Word → Act (List Mark)

namespace Act

def perform (step : Act Unit) (s : State) : Flow × State :=
  match step.run s with
  | (.ok (), s) => (.next, s)
  | (.error flow, s) => (flow, s)

def abort (text : String) : Act α := do
  modify fun s => s.complain text
  throw (.exit 2)

def failed (code : Nat) (text : String) : Act Unit :=
  modify fun s => (s.complain text).withStatus code

def lines (inner : Inner) (total : Nat) : Nat → List Char → Act Unit
  | 0, _ => pure ()
  | fuel + 1, text => do
    if text.isEmpty then return
    modify fun s => { s with line := total + 1 - (text.filter (· == '\n')).length }
    match Reader.firstItems total text with
    | .error fault => abort fault.message
    | .ok (items, rest) =>
      inner.items items
      lines inner total fuel rest

def script (inner : Inner) (text : String) : Act Unit :=
  lines inner (text.toList.filter (· == '\n')).length (text.length + 1) text.toList

def receive (inner : Inner) (signal : Signal) : Act Unit := do
  let s ← get
  if signal == .kill then throw (.died signal)
  match s.trap? (some signal) with
  | none => throw (.died signal)
  | some "" => pure ()
  | some action =>
    script inner action
    modify (State.withStatus s.status)

def takeSignals (inner : Inner) : Nat → Act Unit
  | 0 => pure ()
  | fuel + 1 => do
    let s ← get
    if s.horizon ≤ s.now then throw .cut
    match s.inbox with
    | d :: rest =>
      if d.time ≤ s.now then
        set { s with inbox := rest }
        receive inner d.signal
        takeSignals inner fuel
    | [] => pure ()

def signals (inner : Inner) : Act Unit := do takeSignals inner ((← get).inbox.length + 1)

/-- Waits for something that ends at a time, or never, unless a signal ends the shell before. -/
def awaitEnd (ended : Option Instant) : Act Unit := do
  let s ← get
  match s.fatal? ended, ended with
  | some d, _ =>
    set { s with now := max s.now d.time }
    throw (.died d.signal)
  | none, some time =>
    if s.horizon ≤ time then throw .cut
    set { s with now := max s.now time }
  | none, none => throw .cut

def takeStatus (status : ExitStatus) : Act Unit :=
  modify fun s =>
    let text := match status with
      | .signal signal => (signal.description?.map (· ++ "\n")).getD ""
      | .code _ => ""
    (s.emit State.standardError (Utf8.encode text)).withStatus status.number

def toEnd (inner : Inner) (step : Act Unit) (s : State) : Flow × State :=
  let (flow, s) := perform step s
  match flow, s.trap? none with
  | .cut, _ => (flow, s)
  | .died _, _ => (flow, s)
  | _, none => (flow, s)
  | _, some action =>
    let status := match flow with
      | .exit code => code
      | _ => s.status
    let (last, s) := perform (script inner action) ((s.setTrap none none).withStatus status)
    match last with
    | .next => (.exit status, s)
    | last => (last, s)

def inSubshell (inner : Inner) (step : Act Unit) (arrange : State → State) : Act State := do
  let s ← get
  let (flow, child) := toEnd inner step (arrange s.fork)
  let ended := (child.outcome flow).ended
  set (s.join child)
  awaitEnd (ended.map (·.1))
  takeStatus ((ended.map (·.2)).getD (.code 0))
  return child

def inBackground (inner : Inner) (step : Act Unit) : Act Unit := do
  let s ← get
  let child := { s.fork with input := [] }
  let child := (child.setTrap (some .int) (some "")).setTrap (some .quit) (some "")
  let final := fun extra : List Delivery => toEnd inner step (child.receive extra)
  let outcome := fun ended : Flow × State => ended.2.outcome ended.1
  let ended := final []
  let first := ended.2
  let job : Job := ⟨s.nextPid, fun extra => outcome (final extra), [], outcome ended⟩
  set { s.signalShell job.outcome.sentUp with
    jobs := s.jobs ++ [job]
    lastJob := some s.nextPid
    nextPid := first.nextPid
    nextStream := first.nextStream
    status := 0 }

def ensuring (step : Act Unit) (after : State → State) : Act Unit := do
  try
    step
    modify after
  catch flow =>
    modify after
    throw flow

end Act

end LoadBench.Shell
