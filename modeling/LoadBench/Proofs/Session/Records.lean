import LoadBench.Proofs.Files
import LoadBench.Proofs.Run.FailFast
import LoadBench.Proofs.Run.Steady
import LoadBench.Session.Executor

namespace LoadBench

open Text

/-- What is made of a run's outcome: a result, and the files that are left. -/
def RunConfig.conclude (c : RunConfig) (name : String) (files : Files) :
    Except RunFault RunSummary → ScenarioResult × Files
  | .error fault => (.ofFault name c fault, files)
  | .ok s =>
    match c.record s files with
    | .error fault => (.ofFault name c (.io fault), c.leftovers files)
    | .ok after => (.ofSummary name c s, after)

theorem runWithin_eq (name : String) (c : RunConfig) (files : Files) (ch : Channel) :
    runWithin name c files ch = (benchmark c ch).map fun ended =>
      ((c.conclude name files ended.1).1, (c.conclude name files ended.1).2, ended.2) := by
  rw [runWithin, recordRun, Option.map_map]
  congr 1
  funext ended
  obtain ⟨outcome, later⟩ := ended
  cases outcome with
  | error fault => rfl
  | ok s =>
    simp only [Function.comp_apply, RunConfig.conclude]
    cases c.record s files <;> rfl

/-- The summary of a run is what was recorded of it, and stands where its configuration asks for
it. -/
structure Persisted (c : RunConfig) (s : RunSummary) (files : Files) (result : ScenarioResult)
    (after : Files) : Prop where
  metrics : result.metrics = some s.json.sorted
  stderrTail : result.stderrTail = ""
  written : ∀ path, c.output = some path → s.write files path = .ok after ∧
    (¬after.Swallows path → after.readText path = .ok (s.pretty ++ "\n"))
  unwritten : c.output = none → after = files

/-- A fault is all that was recorded of a run, and no file is there that was not before, or has
changed. -/
structure Failed (fault : RunFault) (files : Files) (result : ScenarioResult) (after : Files) :
    Prop where
  metrics : result.metrics = none
  stdoutTail : result.stdoutTail = ""
  stderrTail : result.stderrTail = tailLines 10 fault.message
  kept : ∀ place content, after.lookup? place = some (.file content) ↔
    files.lookup? place = some (.file content)

structure Recorded (name : String) (c : RunConfig) (files : Files)
    (outcome : Except RunFault RunSummary) (result : ScenarioResult) (after : Files) : Prop where
  name : result.name = name
  command : result.command = "surgedb-perf bench " ++ " ".intercalate c.arguments
  exitCode : result.exitCode = 0 ∨ result.exitCode = 1
  zero_iff : result.exitCode = 0 ↔ ∃ s, outcome = .ok s ∧
    ∀ path, c.output = some path → ∃ written, s.write files path = .ok written
  success : result.exitCode = 0 → ∃ s, outcome = .ok s ∧ Persisted c s files result after
  failure : result.exitCode ≠ 0 → ∃ fault, Failed fault files result after ∧
    (outcome = .error fault ∧ after = files ∨
      ∃ s path cause, outcome = .ok s ∧ c.output = some path ∧
        s.write files path = .error cause ∧ fault = .io cause)

section

variable {c : RunConfig} {s : RunSummary} {files after : Files}

theorem written_of_record (recorded : c.record s files = .ok after) :
    (∀ path, c.output = some path → s.write files path = .ok after) ∧
      (c.output = none → after = files) := by
  rw [RunConfig.record] at recorded
  cases output : c.output with
  | none =>
    rw [output] at recorded
    cases recorded
    exact ⟨fun _ asked => (Option.some_ne_none _ asked.symm).elim, fun _ => rfl⟩
  | some path =>
    rw [output] at recorded
    refine ⟨fun other same => ?_, fun unasked => (Option.some_ne_none _ unasked).elim⟩
    cases same
    exact recorded

theorem unwritten_of_record {cause : IoFault} (failed : c.record s files = .error cause) :
    ∃ path, c.output = some path ∧ s.write files path = .error cause := by
  rw [RunConfig.record] at failed
  cases output : c.output with
  | none =>
    rw [output] at failed
    cases failed
  | some path =>
    rw [output] at failed
    exact ⟨path, rfl, failed⟩

theorem grows_leftovers (c : RunConfig) (files : Files) : files.Grows (c.leftovers files) := by
  rw [RunConfig.leftovers]
  cases c.output with
  | none => exact .refl files
  | some path => exact files.grows_withParent path

theorem persisted_of_record (name : String) (recorded : c.record s files = .ok after) :
    Persisted c s files (.ofSummary name c s) after where
  metrics := rfl
  stderrTail := rfl
  written path output := by
    have written := (written_of_record recorded).1 path output
    exact ⟨written, Files.readText_createParent_write written⟩
  unwritten := (written_of_record recorded).2

theorem failed_of_grows (name : String) (fault : RunFault) (grows : files.Grows after) :
    Failed fault files (.ofFault name c fault) after where
  metrics := rfl
  stdoutTail := rfl
  stderrTail := rfl
  kept := grows.file_iff

end

theorem recorded_conclude (name : String) (c : RunConfig) (files : Files)
    (outcome : Except RunFault RunSummary) :
    Recorded name c files outcome (c.conclude name files outcome).1
      (c.conclude name files outcome).2 := by
  cases outcome with
  | error fault =>
    refine ⟨rfl, rfl, .inr rfl, ⟨nofun, ?_⟩, nofun, fun _ => ⟨fault, ?_, .inl ⟨rfl, rfl⟩⟩⟩
    · rintro ⟨s, same, _⟩
      cases same
    · exact failed_of_grows name fault (.refl files)
  | ok s =>
    rw [RunConfig.conclude]
    cases recorded : c.record s files with
    | error cause =>
      obtain ⟨path, output, failed⟩ := unwritten_of_record recorded
      refine ⟨rfl, rfl, .inr rfl, ⟨nofun, ?_⟩, nofun, fun _ => ⟨.io cause, ?_, .inr ?_⟩⟩
      · rintro ⟨other, same, writes⟩
        cases same
        obtain ⟨after, written⟩ := writes path output
        rw [failed] at written
        cases written
      · exact failed_of_grows name (.io cause) (grows_leftovers c files)
      · exact ⟨s, path, cause, rfl, output, failed, rfl⟩
    | ok after =>
      refine ⟨rfl, rfl, .inl rfl, ⟨fun _ => ⟨s, rfl, fun path output => ?_⟩, fun _ => rfl⟩,
        fun _ => ⟨s, rfl, ?_⟩, fun failed => (failed rfl).elim⟩
      · exact ⟨after, (written_of_record recorded).1 path output⟩
      · exact persisted_of_record name recorded

theorem runWithin_of_benchmark (name : String) {c : RunConfig} (files : Files) {ch later : Channel}
    {outcome : Except RunFault RunSummary} (ended : benchmark c ch = some (outcome, later)) :
    runWithin name c files ch = some
      ((c.conclude name files outcome).1, (c.conclude name files outcome).2, later) := by
  rw [runWithin_eq, ended, Option.map_some]

structure Records (name : String) (c : RunConfig) (files : Files) (ch : Channel) : Prop where
  concludes : runWithin name c files ch = (benchmark c ch).map fun ended =>
    ((c.conclude name files ended.1).1, (c.conclude name files ended.1).2, ended.2)
  outcomes : ∀ outcome, Recorded name c files outcome (c.conclude name files outcome).1
    (c.conclude name files outcome).2
  results : ∀ result after later, runWithin name c files ch = some (result, after, later) →
    ∃ outcome, benchmark c ch = some (outcome, later) ∧
      Recorded name c files outcome result after
  failed : ∀ fault later, setUp c ch = (.error fault, later) →
    ∃ result, runWithin name c files ch = some (result, files, later) ∧
      Recorded name c files (.error fault) result files
  /-- Any other returns if the calls that its workers make take time sooner or later. -/
  returns : ∀ n, ch.script.TakesTime c.Uses n → ∃ result after later,
    runWithin name c files ch = some (result, after, later)

/-- Whatever comes of a run, there is one record of it, and its code, metrics, output and file all
tell of the same outcome. -/
theorem runWithin_records (name : String) (c : RunConfig) (files : Files) (ch : Channel) :
    Records name c files ch where
  concludes := runWithin_eq name c files ch
  outcomes := recorded_conclude name c files
  results result after later ran := by
    rw [runWithin_eq] at ran
    obtain ⟨⟨outcome, closed⟩, ended, same⟩ := Option.map_eq_some_iff.mp ran
    cases same
    exact ⟨outcome, ended, recorded_conclude name c files outcome⟩
  failed fault later broken := by
    have ended : benchmark c ch = some (.error fault, later) := by rw [benchmark, broken]
    exact ⟨_, runWithin_of_benchmark name files ended, recorded_conclude name c files (.error fault)⟩
  returns n takes := by
    obtain ⟨outcome, later, ended⟩ := benchmark_returns (c := c) takes
    exact ⟨_, _, later, runWithin_of_benchmark name files ended⟩

def nullDevice : Files := ⟨[(["dev"], .folder), (["dev", "null"], .device)]⟩

def silencedRun : RunConfig := { busyRun .insert with output := some "/dev/null" }

theorem exists_silencedRun : ∃ summary later,
    benchmark silencedRun (.ofScript faultyService) = some (.ok summary, later) := by
  have setup : setUp silencedRun (.ofScript faultyService) = _ :=
    setUp_of_accepted (by decide +kernel)
  have takes : (Channel.ofScript faultyService).script.TakesTime silencedRun.Uses 0 := by
    intro kind _ k _
    have delay : ((Channel.ofScript faultyService).script kind.route k).delay =
        Duration.ofMillis 300 := delay_faultyService kind.route k
    rw [delay]
    decide
  obtain ⟨outcome, later, ran⟩ := benchmark_returns takes
  obtain ⟨summary, rfl, _⟩ := benchmark_proceeds setup ran
  exact ⟨summary, later, ran⟩

/-- A run whose calls all are accepted at once never returns, and of one that writes its summary to
a device there is a record of success, but no file. -/
theorem runWithin_unreturned_unstored :
    runWithin "at once" RunConfig.default ⟨[]⟩ (.ofScript instantService) = none ∧
    ∃ result later, runWithin "silenced" silencedRun nullDevice (.ofScript faultyService) =
        some (result, nullDevice, later) ∧
      result.exitCode = 0 ∧ result.metrics.isSome = true ∧
      nullDevice.readText "/dev/null" = .ok "" := by
  constructor
  · rw [runWithin_eq, benchmark_eq_none (by decide +kernel), Option.map_none]
  · obtain ⟨summary, later, ran⟩ := exists_silencedRun
    have leads : nullDevice.place "/dev/null" = .ok ["dev", "null"] := rfl
    have plain : Files.endsInSlash "/dev/null" = false := by decide +kernel
    have device : nullDevice.lookup? ["dev", "null"] = some .device := rfl
    have folders : nullDevice.createParent "/dev/null" = .ok nullDevice := rfl
    have stored : silencedRun.record summary nullDevice = .ok nullDevice := by
      simp only [RunConfig.record, silencedRun, RunSummary.write, folders, bind, Except.bind]
      exact Files.write_device leads plain device
    have recorded := runWithin_of_benchmark "silenced" nullDevice ran
    simp only [RunConfig.conclude, stored] at recorded
    exact ⟨_, later, recorded, rfl, rfl, Files.readText_device leads plain device⟩

end LoadBench
