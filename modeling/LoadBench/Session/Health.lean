import LoadBench.Http.Url
import LoadBench.Loop
import LoadBench.Service

namespace LoadBench

open Http

structure HealthGate where
  url : String
  timeout : Duration
  pollInterval : Duration
  probeTimeout : Duration
deriving DecidableEq

namespace HealthGate

def defaultPollInterval : Duration := Duration.ofSeconds 1

def defaultProbeTimeout : Duration := Duration.ofSeconds 2

def ofServer (baseUrl healthPath : String) (timeout : Duration) : HealthGate :=
  ⟨Url.join baseUrl healthPath, timeout, defaultPollInterval, defaultProbeTimeout⟩

def probe (gate : HealthGate) : Request := .get gate.url gate.probeTimeout

def isReady : Outcome → Bool
  | .ok response => response.status == 200
  | .error _ => false

structure Probes where
  answers : List Outcome
  channel : Channel

def Probes.ready (p : Probes) : Bool := p.answers.any isReady

/-- One probe. If it does not tell that the service is up, there is a pause behind it. -/
def probeOnce (gate : HealthGate) (p : Probes) : Probes :=
  match p.channel.call gate.probe with
  | (outcome, ch) =>
    ⟨p.answers ++ [outcome], if isReady outcome then ch else ch.wait gate.pollInterval⟩

def loop (gate : HealthGate) (deadline : Instant) : Loop Probes where
  done p := p.ready || deadline ≤ p.channel.now
  step := gate.probeOnce

/-- The probes of a gate. They go on forever if neither they nor the pauses take any time and none
tells that the service is up. -/
def probes? (gate : HealthGate) (ch : Channel) : Option Probes :=
  (gate.loop (ch.now + gate.timeout)).run? ⟨[], ch⟩

def verdict? (gate : HealthGate) (ch : Channel) : Option (Bool × Channel) :=
  (gate.probes? ch).map fun p => (p.ready, p.channel)

/-- The verdict of a gate that comes to one; whether it does is for `verdict?` to say. -/
def await (gate : HealthGate) (ch : Channel) : Bool × Channel :=
  (gate.verdict? ch).getD (false, ch)

end HealthGate

end LoadBench
