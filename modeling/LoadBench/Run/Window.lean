import LoadBench.Loop
import LoadBench.Run.Worker

namespace LoadBench

open Http

structure Flight where
  call : Call
  started : Instant
  outcome : Outcome

/-- A worker and the moment it goes on, with the call it is waiting for, if it has sent one. -/
structure Waiting where
  time : Instant
  worker : Worker
  flight : Option Flight

/-- Workers side by side on one clock. Each waits, for its first call or for an answer; the clock
moves to the next answer, which is recorded, and its worker sends its next request at that moment
unless the window has closed. -/
structure Window where
  deadline : Instant
  waiting : List Waiting
  channel : Channel
  collector : Collector

namespace Window

/-- Puts a worker behind those that go on no later than it does; one that need not wait goes
first. -/
def enqueue (now : Instant) (w : Waiting) (queue : List Waiting) : List Waiting :=
  if w.time ≤ now then w :: queue
  else queue.takeWhile (·.time ≤ w.time) ++ w :: queue.dropWhile (·.time ≤ w.time)

def land (w : Waiting) (now : Instant) (collector : Collector) : Collector :=
  match w.flight with
  | none => collector
  | some f => collector.record f.call.kind f.outcome (now - f.started)

def launch (worker : Worker) (ch : Channel) : Waiting × Channel :=
  let next := worker.next
  let sent := ch.send next.1.request
  (⟨ch.now + sent.1.delay, next.2, some ⟨next.1, ch.now, sent.1.outcome next.1.request.url⟩⟩, sent.2)

def goOn (w : Window) (p : Waiting) (rest : List Waiting) (now : Instant) : Window :=
  let launched := launch p.worker { w.channel with now }
  { w with
    waiting := enqueue now launched.1 rest
    channel := launched.2
    collector := land p now w.collector }

def retire (w : Window) (p : Waiting) (rest : List Waiting) (now : Instant) : Window :=
  { w with waiting := rest, channel := { w.channel with now }, collector := land p now w.collector }

/-- Moves the clock to the next worker, which goes on or, once the window has closed, stops. -/
def step (w : Window) : Window :=
  match w.waiting with
  | [] => w
  | p :: rest =>
    if p.time < w.deadline then w.goOn p rest p.time else w.retire p rest p.time

def loop : Loop Window := ⟨(·.waiting.isEmpty), step⟩

def pollInterval : Duration := Duration.ofMillis 500

/-- The moment at which the clock is first seen to have reached the deadline. No look at it is later
than need be. -/
def pollUntil (deadline now : Instant) : Instant :=
  if deadline ≤ now then now
  else pollUntil deadline (now + min pollInterval (deadline - now))
termination_by deadline - now
decreasing_by
  have positive : 0 < pollInterval := by decide
  lia

def opening (c : RunConfig) (ch : Channel) : Window where
  deadline := pollUntil (ch.now + c.duration) ch.now
  waiting := (List.range c.concurrency).map fun i => ⟨ch.now, Worker.start c i, none⟩
  channel := ch
  collector := Collector.empty

/-- How long a window was open: to its last answer, and at least to its deadline. -/
def lasted (w : Window) (opened : Instant) : Duration := max w.deadline w.channel.now - opened

def run (c : RunConfig) (ch : Channel) : Option Window := loop.run? (opening c ch)

end Window

end LoadBench
