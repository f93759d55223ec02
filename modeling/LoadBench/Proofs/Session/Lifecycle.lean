import LoadBench.Proofs.Session.Health
import LoadBench.Session.Stage

namespace LoadBench

namespace SessionEvent

def isStart : SessionEvent → Bool
  | .start => true
  | _ => false

def isStop : SessionEvent → Bool
  | .stop => true
  | _ => false

def isWrite : SessionEvent → Bool
  | .write => true
  | _ => false

def isCommand : SessionEvent → Bool
  | .command _ _ => true
  | _ => false

end SessionEvent

open SessionEvent

structure InService (events : List SessionEvent) : Prop where
  starts : events.countP isStart = 1
  stops : events.countP isStop = 0
  writes : events.countP isWrite = 0

def Answered (events : List SessionEvent) : Prop :=
  ∃ response, .probe (.ok response) ∈ events ∧ response.status = 200

theorem Answered.append {events : List SessionEvent} (answered : Answered events)
    (more : List SessionEvent) : Answered (events ++ more) := by
  obtain ⟨response, probed, status⟩ := answered
  exact ⟨response, List.mem_append_left more probed, status⟩

theorem answered_of_isReady (events : List SessionEvent) {answer : Http.Outcome}
    (ready : HealthGate.isReady answer = true) : Answered (events ++ [.probe answer]) := by
  cases answer with
  | ok response =>
    exact ⟨response, List.mem_append_right events (List.mem_singleton_self _), eq_of_beq ready⟩
  | error fault => cases ready

inductive Phase where
  | idle
  | waiting
  | ready (commanding : Bool)
  | stuck
  | stopped
  | closed
  | refused

namespace Phase

variable {pause : Duration}

/-- How the phases of a session follow one another whose probes have some pause between them. -/
inductive Step (pause : Duration) : Phase → SessionEvent → Phase → Prop where
  | start : Step pause .idle .start .waiting
  | silent {answer} : HealthGate.isReady answer = false → Step pause .waiting (.probe answer) .waiting
  | answered {answer} :
    HealthGate.isReady answer = true → Step pause .waiting (.probe answer) (.ready false)
  | endlessProbes : pause = 0 → Step pause .waiting .endlessProbes .stuck
  | scenario {name config result} :
    Step pause (.ready false) (.scenario name config (some result)) (.ready false)
  | endlessScenario {name config} : Step pause (.ready false) (.scenario name config none) .stuck
  | command {commanding text result} :
    Step pause (.ready commanding) (.command text (some result)) (.ready true)
  | endlessCommand {commanding text} : Step pause (.ready commanding) (.command text none) .stuck
  | abandon : Step pause .waiting .stop .stopped
  | stop {commanding} : Step pause (.ready commanding) .stop .stopped
  | write : Step pause .stopped .write .closed
  | refuse : Step pause .idle .write .refused

def starts : Phase → Nat
  | .idle | .refused => 0
  | _ => 1

def stops : Phase → Nat
  | .stopped | .closed => 1
  | _ => 0

def writes : Phase → Nat
  | .closed | .refused => 1
  | _ => 0

theorem Step.starts {p q : Phase} {e : SessionEvent} (step : Step pause p e q) :
    q.starts = p.starts + if isStart e then 1 else 0 := by
  cases step <;> rfl

theorem Step.stops {p q : Phase} {e : SessionEvent} (step : Step pause p e q) :
    q.stops = p.stops + if isStop e then 1 else 0 := by
  cases step <;> rfl

theorem Step.writes {p q : Phase} {e : SessionEvent} (step : Step pause p e q) :
    q.writes = p.writes + if isWrite e then 1 else 0 := by
  cases step <;> rfl

structure Past (events : List SessionEvent) (p : Phase) : Prop where
  starts : events.countP isStart = p.starts
  stops : events.countP isStop = p.stops
  writes : events.countP isWrite = p.writes
  idle : p = .idle → events = []
  answered : ∀ commanding, p = .ready commanding → Answered events
  commands : p = .waiting ∨ p = .ready false → events.countP isCommand = 0

theorem past_idle : Past [] .idle where
  starts := rfl
  stops := rfl
  writes := rfl
  idle := fun _ => rfl
  answered := nofun
  commands := fun _ => rfl

theorem Past.step {p q : Phase} {events : List SessionEvent} {e : SessionEvent}
    (past : Past events p) (step : Step pause p e q) : Past (events ++ [e]) q where
  starts := by rw [List.countP_append, past.starts, List.countP_singleton, step.starts]
  stops := by rw [List.countP_append, past.stops, List.countP_singleton, step.stops]
  writes := by rw [List.countP_append, past.writes, List.countP_singleton, step.writes]
  idle := by
    intro idle
    subst idle
    cases step
  answered := by
    intro commanding ready
    subst ready
    cases step with
    | answered ready => exact answered_of_isReady events ready
    | scenario => exact (past.answered _ rfl).append _
    | command => exact (past.answered _ rfl).append _
  commands := by
    intro early
    rw [List.countP_append]
    -- Only steps to a phase before the first command are left.
    cases step with
    | start =>
      rw [past.idle rfl]
      rfl
    | silent silent =>
      rw [past.commands (.inl rfl)]
      rfl
    | answered ready =>
      rw [past.commands (.inl rfl)]
      rfl
    | scenario =>
      rw [past.commands (.inr rfl)]
      rfl
    | _ => simp at early

inductive Passes (pause : Duration) : List SessionEvent → Phase → Prop where
  | nil : Passes pause [] .idle
  | snoc {events p e q} : Passes pause events p → Step pause p e q →
    Passes pause (events ++ [e]) q

theorem Passes.past {events : List SessionEvent} {p : Phase} (passes : Passes pause events p) :
    Past events p := by
  induction passes with
  | nil => exact past_idle
  | snoc passes step past => exact past.step step

theorem Passes.split {events : List SessionEvent} {q : Phase} (passes : Passes pause events q) :
    ∀ before e after, events = before ++ e :: after → ∃ p r, Passes pause before p ∧ Step pause p e r := by
  induction passes with
  | nil =>
    intro before e after split
    simp at split
  | @snoc events p last q passes step ih =>
    intro before e after split
    -- The event is the last one, or lies among those that led to the phase before.
    rcases List.eq_nil_or_concat after with rfl | ⟨init, final, rfl⟩
    · obtain ⟨rfl, same⟩ := List.append_inj' split rfl
      cases same
      exact ⟨p, q, passes, step⟩
    · rw [List.concat_eq_append, ← List.cons_append, ← List.append_assoc] at split
      exact ih before e init (List.append_inj' split rfl).1

end Phase

/-- What an event asks of those before it. -/
def Allowed (before : List SessionEvent) : SessionEvent → Prop
  | .start => before = []
  | .probe _ => InService before
  | .endlessProbes => InService before
  | .scenario _ _ _ => InService before ∧ Answered before ∧ before.countP isCommand = 0
  | .command _ _ => InService before ∧ Answered before
  | .stop => InService before
  | .write => before.countP isStop = before.countP isStart ∧ before.countP isWrite = 0

theorem Phase.Past.inService {events : List SessionEvent} {p : Phase} (past : Past events p)
    (up : p = .waiting ∨ ∃ commanding, p = .ready commanding) : InService events := by
  obtain ⟨starts, stops, writes, -⟩ := past
  rcases up with rfl | ⟨commanding, rfl⟩
  · exact ⟨starts, stops, writes⟩
  · exact ⟨starts, stops, writes⟩

theorem Phase.Past.allowed {pause : Duration} {events : List SessionEvent} {p q : Phase}
    {e : SessionEvent}
    (past : Past events p) (step : Step pause p e q) : Allowed events e := by
  cases step with
  | start => exact past.idle rfl
  | silent | answered | endlessProbes | abandon => exact past.inService (.inl rfl)
  | scenario | endlessScenario =>
    exact ⟨past.inService (.inr ⟨false, rfl⟩), past.answered false rfl, past.commands (.inr rfl)⟩
  | command | endlessCommand => exact ⟨past.inService (.inr ⟨_, rfl⟩), past.answered _ rfl⟩
  | stop => exact past.inService (.inr ⟨_, rfl⟩)
  | write => exact ⟨past.stops.trans past.starts.symm, past.writes⟩
  | refuse =>
    rw [past.idle rfl]
    exact ⟨rfl, rfl⟩

namespace Phase.Passes

variable {pause : Duration} {events : List SessionEvent} {p : Phase}

theorem order (passes : Passes pause events p) :
    ∀ before e after, events = before ++ e :: after → Allowed before e := by
  intro before e after split
  obtain ⟨q, r, led, step⟩ := passes.split before e after split
  exact led.past.allowed step

end Phase.Passes

namespace Session

open Phase

variable {σ α β : Type} {pause : Duration}

def At (pause : Duration) (s : Session σ) (p : Phase) : Prop := Passes pause s.events p

theorem At.happen {s : Session σ} {p q : Phase} {e : SessionEvent} (here : At pause s p)
    (step : Step pause p e q) : At pause (s.happen e) q :=
  Passes.snoc here step

def waited (ready : Bool) : Phase := if ready then .ready false else .waiting

theorem passes_probes {gate : HealthGate} {ch : Channel} {p : HealthGate.Probes}
    {events : List SessionEvent} (ended : gate.probes? ch = some p)
    (passes : Passes pause events .waiting) :
    Passes pause (events ++ p.answers.map .probe) (waited p.ready) := by
  have begun : Passes pause (events ++ List.map SessionEvent.probe []) .waiting := by
    rwa [List.map_nil, List.append_nil]
  refine (Loop.run?_eq_some_iff.mp ended).keeps
    (P := fun p => Passes pause (events ++ p.answers.map .probe) (waited p.ready)) ?_ begun
  intro p passes going
  have silent : p.ready = false := (Bool.or_eq_false_iff.mp going).1
  rw [silent] at passes
  rcases answered : p.channel.call gate.probe with ⟨outcome, after⟩
  have ready : (gate.probeOnce p).ready = HealthGate.isReady outcome := by
    have same : p.answers.any HealthGate.isReady = false := silent
    simp only [HealthGate.probeOnce, answered, HealthGate.ready_append, same, Bool.false_or]
  have answers : (gate.probeOnce p).answers = p.answers ++ [outcome] := by
    simp only [HealthGate.probeOnce, answered]
  have step : Step pause .waiting (.probe outcome) (waited (HealthGate.isReady outcome)) := by
    cases up : HealthGate.isReady outcome with
    | true => exact .answered up
    | false => exact .silent up
  have next := passes.snoc step
  rw [List.append_assoc] at next
  simpa only [HealthGate.loop, ready, answers, List.map_append, List.map_cons, List.map_nil] using next

theorem At.awaitReady {s : Session σ} (here : At pause s .waiting) {gate : HealthGate}
    (same : gate.pollInterval = pause) :
    match s.awaitReady gate with
    | (some up, later) => At pause later (waited up)
    | (none, later) => At pause later .stuck := by
  rw [Session.awaitReady]
  cases ended : gate.probes? s.channel with
  | none => exact here.happen (.endlessProbes (same ▸ HealthGate.still_of_endless ended))
  | some p => exact passes_probes ended here

/-- A session has gone on to a phase of some kind with a result, or has none and is stuck. -/
def Arrives (pause : Duration) (ended : Option β × Session σ) (kind : Phase → Prop) : Prop :=
  match ended.1 with
  | some _ => ∃ p, kind p ∧ At pause ended.2 p
  | none => At pause ended.2 .stuck

theorem Arrives.mono {ended : Option β × Session σ} {kind wider : Phase → Prop}
    (arrives : Arrives pause ended kind) (widen : ∀ p, kind p → wider p) : Arrives pause ended wider := by
  rcases ended with ⟨_ | result, s⟩
  · exact arrives
  · obtain ⟨p, fits, there⟩ := arrives
    exact ⟨p, widen p fits, there⟩

theorem At.inTurn {act : α → σ → Option (β × σ)} {event : α → Option β → SessionEvent}
    {s : Session σ} {p : Phase} (here : At pause s p) (kind : Phase → Prop) (fits : kind p)
    (goes : ∀ p job result, kind p → ∃ q, kind q ∧ Step pause p (event job (some result)) q)
    (hangs : ∀ p job, kind p → Step pause p (event job none) .stuck) (jobs : List α) :
    Arrives pause (inTurn act event jobs s) kind := by
  induction jobs generalizing s p with
  | nil => exact ⟨p, fits, here⟩
  | cons job rest ih =>
    rcases attempt : act job s.world with _ | ⟨result, world⟩
    · simp only [Session.inTurn, attempt]
      exact here.happen (hangs p job fits)
    · obtain ⟨q, fits, step⟩ := goes p job result fits
      have there : At pause ({ s with world }.happen (event job (some result))) q := here.snoc step
      have arrives := ih there fits
      rcases run : Session.inTurn act event rest ({ s with world }.happen (event job (some result)))
        with ⟨_ | results, last⟩
      · simp only [run] at arrives
        simp only [Session.inTurn, attempt, run]
        exact arrives
      · simp only [run] at arrives
        simp only [Session.inTurn, attempt, run]
        exact arrives

theorem At.runScenarios {s : Session σ} (here : At pause s (.ready false)) (stage : Stage σ)
    (options : SessionOptions) (c : SessionConfig) :
    Arrives pause (s.runScenarios stage options c) (fun p => p = .ready false) := by
  refine here.inTurn (fun p => p = .ready false) rfl ?_ ?_ c.traffic.scenarios
  · rintro p scenario result rfl
    exact ⟨.ready false, rfl, .scenario⟩
  · rintro p scenario rfl
    exact .endlessScenario

theorem At.runCommands {s : Session σ} (here : At pause s (.ready false)) (stage : Stage σ)
    (options : SessionOptions) (c : SessionConfig) :
    Arrives pause (s.runCommands stage options c) (fun p => ∃ commanding, p = .ready commanding) := by
  refine here.inTurn (fun p => ∃ commanding, p = .ready commanding) ⟨false, rfl⟩ ?_ ?_
    (commandsOf c options)
  · rintro p text result ⟨commanding, rfl⟩
    exact ⟨.ready true, ⟨true, rfl⟩, .command⟩
  · rintro p text ⟨commanding, rfl⟩
    exact .endlessCommand

theorem At.perform {s : Session σ} (here : At pause s (.ready false)) (stage : Stage σ)
    (options : SessionOptions) (c : SessionConfig) :
    Arrives pause (s.perform stage options c) (fun p => ∃ commanding, p = .ready commanding) := by
  have prepared : At pause (s.prepare stage options) (.ready false) := here
  have scenarios := prepared.runScenarios stage options c
  rcases run : (s.prepare stage options).runScenarios stage options c with ⟨_ | http, later⟩
  · simp only [Session.perform, run]
    simp only [run] at scenarios
    exact scenarios
  · simp only [run] at scenarios
    obtain ⟨p, rfl, there⟩ := scenarios
    have commands := At.runCommands there stage options c
    rcases more : later.runCommands stage options c with ⟨_ | core, last⟩
    · simp only [Session.perform, run, more]
      simp only [more] at commands
      exact commands
    · simp only [Session.perform, run, more]
      simp only [more] at commands
      exact commands

theorem At.finish {s : Session σ} {p q : Phase} (here : At pause s p) (step : Step pause p .write q)
    (stage : Stage σ) (options : SessionOptions) (report : Report) (success : Bool) :
    Arrives pause (s.finish stage options report success) (fun p => p = q) := by
  cases written : stage.write report options.output s.world with
  | ok world =>
    simp only [Session.finish, written]
    exact ⟨q, rfl, here.happen step⟩
  | error fault =>
    simp only [Session.finish, written]
    exact ⟨q, rfl, here.happen step⟩

theorem At.stop {s : Session σ} {p : Phase} (here : At pause s p) (step : Step pause p .stop .stopped)
    (stage : Stage σ) : At pause (s.stop stage) .stopped :=
  Passes.snoc here step

theorem At.attend {s : Session σ} (here : At pause s .waiting) (stage : Stage σ)
    (options : SessionOptions) {gate : HealthGate} (same : gate.pollInterval = pause)
    (report : Report) :
    Arrives pause (s.attend stage options gate report) (fun p => p = .closed) := by
  have there := here.awaitReady same
  rcases waited : s.awaitReady gate with ⟨_ | _ | _, later⟩
  · simp only [waited] at there
    simp only [Session.attend, waited]
    exact there
  · simp only [waited] at there
    simp only [Session.attend, waited]
    exact (there.stop .abandon stage).finish .write stage options _ false
  · simp only [waited] at there
    have arrives := At.perform there stage options report.config
    rcases run : later.perform stage options report.config with ⟨_ | results, last⟩
    · simp only [run] at arrives
      simp only [Session.attend, waited, run]
      exact arrives
    · simp only [run] at arrives
      obtain ⟨p, ⟨commanding, rfl⟩, performed⟩ := arrives
      simp only [Session.attend, waited, run]
      exact (At.stop performed .stop stage).finish .write stage options _ true

theorem At.conduct {s : Session σ} {options : SessionOptions}
    (here : At options.pollInterval s .idle) (stage : Stage σ) (timestamp : String)
    (c : SessionConfig) :
    Arrives options.pollInterval (conduct stage options timestamp c s)
      (fun p => p = .closed ∨ p = .refused) := by
  cases launched : stage.start c.server.startCommand s.world with
  | error fault =>
    simp only [Session.conduct, launched]
    exact (here.finish .refuse stage options _ false).mono fun _ => .inr
  | ok world =>
    have started : At options.pollInterval ({ s with world }.happen .start) .waiting :=
      here.snoc .start
    simp only [Session.conduct, launched]
    exact (started.attend stage options rfl _).mono fun _ => .inl

end Session

end LoadBench
