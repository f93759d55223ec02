import LoadBench.Files
import LoadBench.Signal

namespace LoadBench

inductive ServiceFault where
  | start (command : String) (fault : IoFault)
  | io (fault : IoFault)
deriving DecidableEq

def ServiceFault.message : ServiceFault → String
  | .start command fault => "failed to start service \x60" ++ command ++ "\x60: " ++ fault.message
  | .io fault => "service process I/O error: " ++ fault.message

structure Guard where
  /-- How the process that was started ends. It leads the group of all it starts itself. -/
  leader : Fate
  grace : Duration
  /-- Whether groups can be signalled; if not, only the leader can be, and only be killed. -/
  reachesGroup : Bool
  sent : List Delivery
  reaped : Bool

namespace Guard

def defaultGrace : Duration := Duration.ofSeconds 5

def ofFate (leader : Fate) (grace : Duration) (reachesGroup : Bool) : Guard :=
  ⟨leader, grace, reachesGroup, [], false⟩

def fate (g : Guard) : Option (Instant × ExitStatus) := g.leader g.sent

def exited? (g : Guard) (now : Instant) : Option ExitStatus :=
  match g.fate with
  | some (time, status) => if time ≤ now then some status else none
  | none => none

def poll (g : Guard) (now : Instant) : Option ExitStatus × Guard :=
  let status := g.exited? now
  (status, { g with reaped := g.reaped || status.isSome })

def send (g : Guard) (deliveries : List Delivery) : Guard := { g with sent := g.sent ++ deliveries }

def terminate (g : Guard) (now : Instant) : Guard :=
  g.send [if g.reachesGroup then ⟨now, .term, true⟩ else ⟨now, .kill, false⟩]

def kill (g : Guard) (now : Instant) : Guard :=
  g.send ((if g.reachesGroup then [⟨now, .kill, true⟩] else []) ++ [⟨now, .kill, false⟩])

def reapKilled (g : Guard) (now : Instant) : ExitStatus × Instant × Guard :=
  match g.fate with
  | some (time, status) => (status, max time now, { g with reaped := true })
  | none => (.signal .kill, now, { g with reaped := true })

/-- Shuts the process down; its status and the time at which it is known. -/
def shutdown (g : Guard) (now : Instant) : ExitStatus × Instant × Guard :=
  match g.exited? now with
  | some status => (status, now, { g with reaped := true })
  | none =>
    let asked := g.terminate now
    let deadline := now + g.grace
    match asked.exited? deadline, asked.fate with
    | some status, some (time, _) => (status, max time now, { asked with reaped := true })
    | _, _ => (asked.kill deadline).reapKilled deadline

def drop (g : Guard) (now : Instant) : Guard :=
  match g.exited? now with
  | some _ => g
  | none => g.kill now

end Guard

end LoadBench
