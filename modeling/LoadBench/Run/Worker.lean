import LoadBench.Latency.Collector
import LoadBench.Run.Collection

namespace LoadBench

open Http

structure Worker where
  index : Nat
  config : RunConfig
  source : VectorSource

structure Call where
  kind : OperationKind
  request : Request

namespace Worker

def start (c : RunConfig) (index : Nat) : Worker :=
  ⟨index, c, VectorSource.forWorker c.seed index c.dimensions⟩

def payload (w : Worker) (kind : OperationKind) (source : VectorSource) : Json × VectorSource :=
  match kind with
  | .search => searchPayload w.config source
  | .insert => insertPayload w.index source

def next (w : Worker) : Call × Worker :=
  let chosen := OperationKind.next w.config w.source
  let drawn := w.payload chosen.1 chosen.2
  (⟨chosen.1, .post (w.config.operationUrl chosen.1) drawn.1 w.config.requestTimeout⟩,
    { w with source := drawn.2 })

structure Totals where
  calls : Nat
  successes : Nat
  failures : Nat
deriving DecidableEq

def Totals.zero : Totals := ⟨0, 0, 0⟩

def succeeded : Outcome → Bool
  | .ok response => !response.isError
  | .error _ => false

def Totals.add (t : Totals) (outcome : Outcome) : Totals :=
  if succeeded outcome then { t with calls := t.calls + 1, successes := t.successes + 1 }
  else { t with calls := t.calls + 1, failures := t.failures + 1 }

structure Solo where
  worker : Worker
  channel : Channel
  collector : Collector
  totals : Totals

def Solo.step (s : Solo) : Solo :=
  let (call, worker) := s.worker.next
  let (outcome, channel) := s.channel.call call.request
  { worker, channel
    collector := s.collector.record call.kind outcome (channel.now - s.channel.now)
    totals := s.totals.add outcome }

def Solo.run (stopped : Nat → Bool) : Nat → Solo → Solo
  | 0, s => s
  | fuel + 1, s => if stopped s.totals.calls then s else Solo.run stopped fuel s.step

/-- A worker that is told to stop during its n-th call. -/
def runAlone (c : RunConfig) (index n : Nat) (ch : Channel) : Solo :=
  Solo.run (n ≤ ·) (n + 1) ⟨start c index, ch, Collector.empty, Totals.zero⟩

end Worker

end LoadBench
