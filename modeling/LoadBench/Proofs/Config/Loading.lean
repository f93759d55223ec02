import LoadBench.Application
import LoadBench.Proofs.Config.Scenarios
import LoadBench.Proofs.Run.FailFast
import LoadBench.Proofs.Text.Numeral
import Mathlib.Data.List.Nodup

namespace LoadBench

open Text

/-- A number with a text that may override it: it becomes the machine word that the text is a
numeral of, if it is one, and stays as it is otherwise. -/
structure NumberOverridden (text : Option String) (before after : Nat) : Prop where
  taken : ∀ t n, text = some t → Numeral.IsNumeral t n → n ≤ Numeral.wordMax → after = n
  kept : (∀ t n, text = some t → Numeral.IsNumeral t n → Numeral.wordMax < n) → after = before

structure Overridden (o : Overrides) (base c : SessionConfig) : Prop where
  others : c = { base with
    server := { base.server with
      baseUrl := c.server.baseUrl, startCommand := c.server.startCommand }
    traffic := { base.traffic with
      durationSecs := c.traffic.durationSecs, concurrency := c.traffic.concurrency } }
  baseUrl : c.server.baseUrl = o.baseUrl.getD base.server.baseUrl
  startCommand : c.server.startCommand = o.startCommand.getD base.server.startCommand
  duration : NumberOverridden o.duration base.traffic.durationSecs c.traffic.durationSecs
  concurrency : NumberOverridden o.concurrency base.traffic.concurrency c.traffic.concurrency

theorem numberOverridden_word? (text : Option String) (before : Nat) :
    NumberOverridden text before ((text >>= Numeral.word?).getD before) where
  taken := by
    rintro t n rfl numeral small
    have reads := (Numeral.word?_eq_some_iff t n).mpr ⟨numeral, small⟩
    rw [Option.bind_eq_bind, Option.bind_some, reads, Option.getD_some]
  kept := by
    intro unread
    suffices text >>= Numeral.word? = Option.none by rw [this, Option.getD_none]
    rw [Option.bind_eq_bind, Option.bind_eq_none_iff]
    intro t given
    rw [Option.eq_none_iff_forall_ne_some]
    intro n reads
    obtain ⟨numeral, small⟩ := (Numeral.word?_eq_some_iff t n).mp reads
    exact Nat.not_lt.mpr small (unread t n given numeral)

theorem overridden_override (o : Overrides) (base : SessionConfig) :
    Overridden o base (base.override o) where
  others := rfl
  baseUrl := rfl
  startCommand := rfl
  duration := numberOverridden_word? o.duration base.traffic.durationSecs
  concurrency := numberOverridden_word? o.concurrency base.traffic.concurrency

namespace Session

variable {σ : Type}

def Planned (options : SessionOptions) (c : SessionConfig) : SessionEvent → Prop
  | .scenario name config _ =>
    ∃ s ∈ c.traffic.scenarios, name = s.name ∧ config = c.recordedRun options.output s
  | _ => True

def AsPlanned (options : SessionOptions) (c : SessionConfig) (s : Session σ) : Prop :=
  ∀ event ∈ s.events, Planned options c event

variable {options : SessionOptions} {c : SessionConfig} {s : Session σ}

theorem AsPlanned.happen (planned : AsPlanned options c s) {event : SessionEvent}
    (next : Planned options c event) : AsPlanned options c (s.happen event) := by
  intro other member
  rcases List.mem_append.mp member with old | new
  · exact planned other old
  · rw [List.mem_singleton.mp new]
    exact next

theorem AsPlanned.awaitReady (planned : AsPlanned options c s) (gate : HealthGate) :
    AsPlanned options c (s.awaitReady gate).2 := by
  rw [Session.awaitReady]
  cases gate.probes? s.channel with
  | none => exact planned.happen trivial
  | some p =>
    intro event member
    rcases List.mem_append.mp member with old | probe
    · exact planned event old
    · obtain ⟨answer, -, rfl⟩ := List.mem_map.mp probe
      trivial

theorem AsPlanned.inTurn {α β : Type} {act : α → σ → Option (β × σ)}
    {event : α → Option β → SessionEvent} {jobs : List α} (planned : AsPlanned options c s)
    (each : ∀ job ∈ jobs, ∀ result, Planned options c (event job result)) :
    AsPlanned options c (inTurn act event jobs s).2 := by
  induction jobs generalizing s with
  | nil => exact planned
  | cons job rest ih =>
    rw [Session.inTurn]
    have first := each job List.mem_cons_self
    cases act job s.world with
    | none => exact planned.happen (first none)
    | some done =>
      obtain ⟨result, world⟩ := done
      have next : AsPlanned options c ({ s with world }.happen (event job (some result))) :=
        AsPlanned.happen (s := { s with world }) planned (first (some result))
      exact ih next fun later member => each later (List.mem_cons_of_mem job member)

theorem AsPlanned.perform (planned : AsPlanned options c s) (stage : Stage σ) :
    AsPlanned options c (s.perform stage options c).2 := by
  have prepared : AsPlanned options c (s.prepare stage options) := planned
  have scenarios : AsPlanned options c ((s.prepare stage options).runScenarios stage options c).2 :=
    prepared.inTurn fun scenario member _ => ⟨scenario, member, rfl, rfl⟩
  rcases ran : (s.prepare stage options).runScenarios stage options c with ⟨_ | results, later⟩
  · simp only [ran] at scenarios
    simp only [Session.perform, ran]
    exact scenarios
  · simp only [ran] at scenarios
    simp only [Session.perform, ran]
    have commands (texts : List String) :
        ∀ text ∈ texts, ∀ result, Planned options c (.command text result) := fun _ _ _ => trivial
    exact scenarios.inTurn (commands (commandsOf c options))

theorem AsPlanned.finish (planned : AsPlanned options c s) (stage : Stage σ) (report : Report)
    (success : Bool) : AsPlanned options c (s.finish stage options report success).2 := by
  rw [Session.finish]
  cases stage.write report options.output s.world with
  | ok world => exact AsPlanned.happen (s := { s with world }) planned trivial
  | error fault => exact planned.happen trivial

theorem AsPlanned.stop (planned : AsPlanned options c s) (stage : Stage σ) :
    AsPlanned options c (s.stop stage) :=
  AsPlanned.happen (s := { s with world := (stage.stop s.world).2 }) planned trivial

theorem AsPlanned.attend (planned : AsPlanned options c s) (stage : Stage σ) (gate : HealthGate)
    {report : Report} (same : report.config = c) :
    AsPlanned options c (s.attend stage options gate report).2 := by
  subst same
  have there := planned.awaitReady gate
  rcases waited : s.awaitReady gate with ⟨_ | _ | _, later⟩
  · simp only [waited] at there
    simp only [Session.attend, waited]
    exact there
  · simp only [waited] at there
    simp only [Session.attend, waited]
    exact AsPlanned.finish (there.stop stage) stage _ false
  · simp only [waited] at there
    have performed := there.perform stage
    rcases run : later.perform stage options report.config with ⟨_ | results, last⟩
    · simp only [run] at performed
      simp only [Session.attend, waited, run]
      exact performed
    · simp only [run] at performed
      simp only [Session.attend, waited, run]
      exact AsPlanned.finish (performed.stop stage) stage _ true

theorem asPlanned_conduct (stage : Stage σ) (options : SessionOptions) (timestamp : String)
    (c : SessionConfig) (channel : Channel) (world : σ) :
    AsPlanned options c (conduct stage options timestamp c (.begin channel world)).2 := by
  have begun : AsPlanned options c (begin channel world) := List.forall_mem_nil _
  rw [conduct]
  cases stage.start c.server.startCommand (begin channel world).world with
  | error fault => exact begun.finish stage _ false
  | ok started =>
    have up : AsPlanned options c ({ begin channel world with world := started }.happen .start) :=
      AsPlanned.happen (s := { begin channel world with world := started }) begun trivial
    exact up.attend stage (gate c options) rfl

end Session

/-- A configuration whose scenarios can be run, whatever report is asked for, and that keeps their
summaries apart. -/
structure Runnable (c : SessionConfig) : Prop where
  valid : ∀ report, ∀ s ∈ c.traffic.scenarios, (c.recordedRun report s).fault? = none
  accepted : ∀ report, ∀ s ∈ c.traffic.scenarios, ∀ ch result later,
    benchmark (c.recordedRun report s) ch = some (result, later) →
      ∀ broken, result ≠ .error (.invalid broken)
  courses : ∀ report, ∀ s ∈ c.traffic.scenarios, ∀ ch result later,
    Course (c.recordedRun report s) ch result later →
      ∀ broken, result ≠ some (.error (.invalid broken))
  planned : ∀ (σ : Type) (stage : Stage σ) options timestamp channel world name config result,
    .scenario name config result ∈
      (Session.conduct stage options timestamp c (.begin channel world)).2.events →
    ∃ s ∈ c.traffic.scenarios, name = s.name ∧ config = c.recordedRun options.output s
  placed : ∀ report, ∀ s ∈ c.traffic.scenarios, ∃ file,
    (c.recordedRun report s).output = some file ∧
      Path.names file = Path.names (SessionConfig.scenarioFolder report) ++ [s.name ++ ".json"] ∧
      s.name ++ ".json" ∉ ["", ".", ".."]
  apart : ∀ report,
    (c.traffic.scenarios.map fun s => (c.recordedRun report s).output.map Path.names).Nodup

theorem runnable_of_fault? {c : SessionConfig} (sound : c.fault? = none) : Runnable c where
  valid report s member := (SessionConfig.keeps_of_fault? sound).valid s member
  accepted report s member ch result later ran broken refused := by
    subst refused
    have valid := (SessionConfig.keeps_of_fault? sound).valid s member
    exact (benchmark_course ran).ne_invalid valid broken rfl
  courses report s member ch result later course broken :=
    course.ne_invalid ((SessionConfig.keeps_of_fault? sound).valid s member) broken
  planned σ stage options timestamp channel world name config result happened :=
    Session.asPlanned_conduct stage options timestamp c channel world _ happened
  placed report s member := by
    have named := (SessionConfig.keeps_of_fault? sound).named s member
    exact ⟨_, rfl, SessionConfig.names_scenarioFile report named,
      SessionConfig.summary_ne_dots named⟩
  apart report := by
    have files := SessionConfig.nodup_scenarioFiles (SessionConfig.keeps_of_fault? sound) report
    have wrapped := List.Nodup.map (Option.some_injective (List String)) files
    rw [List.map_map] at wrapped
    exact wrapped

theorem SessionConfig.load_cases (files : Files) (path : String) (o : Overrides) :
    (∃ base, read files path = .ok base ∧ (base.override o).fault? = none ∧
      load files path o = .ok (base.override o)) ∨
    ∃ e, load files path o = .error e := by
  rw [load]
  cases read files path with
  | error e => exact .inr ⟨e, rfl⟩
  | ok base =>
    dsimp only
    cases sound : (base.override o).fault? with
    | some fault => exact .inr ⟨_, rfl⟩
    | none => exact .inl ⟨base, rfl, sound, rfl⟩

/-- Loading gives the configuration of the file, with its overrides, if it can be run. Otherwise the
program ends with code 2, having done nothing. -/
theorem Application.run_load (s : Surroundings) (a : SessionArguments) :
    match SessionConfig.load s.files a.config (Overrides.ofEnvironment s.environment) with
    | .ok c =>
      (∃ base, SessionConfig.read s.files a.config = .ok base ∧
        Overridden (Overrides.ofEnvironment s.environment) base c) ∧ Runnable c
    | .error _ => ∀ args, CommandLine.parse args = .ok (.run a) →
      run s args = some ⟨2, "", s.files, []⟩ := by
  rcases SessionConfig.load_cases s.files a.config (Overrides.ofEnvironment s.environment) with
    ⟨base, found, sound, loaded⟩ | ⟨e, refused⟩
  · rw [loaded]
    exact ⟨⟨base, found, overridden_override _ base⟩, runnable_of_fault? sound⟩
  · rw [refused]
    intro args parsed
    rw [run, parsed]
    dsimp only
    rw [session, refused]

/-- A configuration of two scenarios, with the duration given anew and a concurrency that is no
number. -/
def Surroundings.twoScenarios : Surroundings where
  program := "surgedb-perf"
  environment name :=
    [("SURGEDB_PERF_DURATION", "+5"), ("SURGEDB_PERF_CONCURRENCY", "many")].lookup name
  files := ⟨[(["scripts"], .folder), (["scripts", "perf"], .folder),
    (["scripts", "perf", "perf.toml"], .file (Utf8.encode
      ("[server]\nstart_cmd='serve'\n[http]\ncollection='c'\ndimensions=4\nprefill=0\n" ++
        "duration=1\nconcurrency=2\n[[http.scenarios]]\nname='a'\n" ++
        "[[http.scenarios]]\nname='b'\n")))]⟩
  channel := Channel.ofScript (Script.unreachable "connection refused")
  timestamp := ""

theorem Application.run_load_twoScenarios :
    ∃ c, SessionConfig.load Surroundings.twoScenarios.files SessionArguments.default.config
        (Overrides.ofEnvironment Surroundings.twoScenarios.environment) = .ok c ∧ Runnable c ∧
      c.traffic.scenarios.map (·.name) = ["a", "b"] ∧ c.traffic.durationSecs = 5 ∧
      c.traffic.concurrency = 2 := by
  have settings : (SessionConfig.load Surroundings.twoScenarios.files
      SessionArguments.default.config
      (Overrides.ofEnvironment Surroundings.twoScenarios.environment)).toOption.map
        (fun c => (c.traffic.scenarios.map (·.name), c.traffic.durationSecs,
          c.traffic.concurrency)) = some (["a", "b"], 5, 2) := by decide +kernel
  have ends := Application.run_load Surroundings.twoScenarios SessionArguments.default
  generalize SessionConfig.load _ _ _ = loaded at settings ends
  cases loaded with
  | error e => cases settings
  | ok c =>
    simp only [Except.toOption, Option.map_some, Option.some.injEq, Prod.mk.injEq] at settings
    exact ⟨c, rfl, ends.2, settings⟩

end LoadBench
