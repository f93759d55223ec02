import LoadBench.Proofs.CommandLine.Bench
import LoadBench.Proofs.Config.Run
import LoadBench.Proofs.Config.Scenarios
import LoadBench.Proofs.Config.Session

namespace LoadBench

open Text CommandLine

namespace RunConfig

theorem parse_eq_ok_iff {c : RunConfig} (sized : c.WordSized)
    (search : c.searchRatio.isNaN = false) (insert : c.insertRatio.isNaN = false)
    (command : Command) :
    parse ("bench" :: c.arguments) = .ok command ↔
      (∀ text ∈ c.texts, ¬ IsDashed text) ∧ c.output ≠ some "" ∧ command = .bench c.spoken := by
  have read (result : RunConfig) : settings benchOptions default (render c.given) = .ok result ↔
      (∀ text ∈ c.texts, ¬ IsDashed text) ∧ c.output ≠ some "" ∧ c.spoken = result := by
    rw [settings_render c.fits_given c.nodup_given, plain_given, foldlM_given sized search insert]
    by_cases empty : c.output = some ""
    · simp [empty]
    · simp [empty]
  rw [parse, arguments_eq]
  cases taken : settings benchOptions default (render c.given) with
  | error stop =>
    have refused : (Except.error stop : Except Stop Command) ≠ .ok command := by
      intro same
      cases same
    refine ⟨fun accepted => absurd accepted refused, ?_⟩
    rintro ⟨plain, written, -⟩
    have given := (read c.spoken).mpr ⟨plain, written, rfl⟩
    rw [taken] at given
    cases given
  | ok result =>
    obtain ⟨plain, written, rfl⟩ := (read result).mp taken
    refine ⟨fun asked => ⟨plain, written, (Except.ok.inj asked).symm⟩, ?_⟩
    rintro ⟨-, -, rfl⟩
    rfl

/-- Of the shares, only minus zero looks like an option. -/
theorem isDashed_plainText {x : Binary64} (share : isShare x = true) :
    IsDashed (Decimal.plainText x) ↔ x = Binary64.negativeZero := by
  rw [IsDashed, Decimal.head?_plainText (isShare_isNaN share), isShare_isNegative share]
  refine and_iff_left_of_imp ?_
  rintro rfl
  decide +kernel

end RunConfig

namespace SessionConfig

theorem WordSized.recordedRun {c : SessionConfig} (sized : c.WordSized) (report : String)
    (s : Scenario) : (c.recordedRun report s).WordSized where
  dimensions := sized.dimensions
  prefill := sized.prefill
  batchSize := sized.batchSize
  durationSecs := sized.durationSecs
  concurrency := sized.concurrency
  searchK := sized.searchK
  seed := sized.seed
  requestTimeoutSecs := (by decide : RunConfig.default.requestTimeoutSecs ≤ Numeral.wordMax)

theorem scenarioFile_ne_empty (report : String) {s : Scenario} (named : isName s.name = true) :
    scenarioFile report s ≠ "" :=
  (Path.isOpen_join (scenarioFolder report) (isEntry_summary named)).nonempty

theorem not_isDashed_scenarioFile {report : String} (plain : report.toList.head? ≠ some '-')
    {s : Scenario} (named : isName s.name = true) : ¬ IsDashed (scenarioFile report s) := by
  rintro ⟨hyphen, -⟩
  rcases head?_scenarioFile report named with same | own
  · exact plain (same ▸ hyphen)
  · rw [own] at hyphen
    cases hyphen

structure Undashed (c : SessionConfig) : Prop where
  baseUrl : ¬ IsDashed c.server.baseUrl
  collection : ¬ IsDashed c.traffic.collection
  distance : ¬ IsDashed c.traffic.distance
  searchRatio : c.traffic.searchRatio ≠ Binary64.negativeZero
  insertRatio : c.traffic.insertRatio ≠ Binary64.negativeZero

theorem texts_recordedRun {c : SessionConfig} {report : String}
    (plain : report.toList.head? ≠ some '-') {s : Scenario} (named : isName s.name = true)
    (valid : (c.recordedRun report s).fault? = none) :
    (∀ text ∈ (c.recordedRun report s).texts, ¬ IsDashed text) ↔ c.Undashed := by
  have search : IsDashed (Decimal.plainText c.traffic.searchRatio) ↔
      c.traffic.searchRatio = Binary64.negativeZero :=
    RunConfig.isDashed_plainText (RunConfig.searchRatio_isShare valid)
  have insert : IsDashed (Decimal.plainText c.traffic.insertRatio) ↔
      c.traffic.insertRatio = Binary64.negativeZero :=
    RunConfig.isDashed_plainText (RunConfig.insertRatio_isShare valid)
  have file := not_isDashed_scenarioFile plain named
  simp only [RunConfig.texts, recordedRun, run, List.forall_mem_append, List.forall_mem_cons,
    Option.toList_some, search, insert, file, not_false_eq_true, List.not_mem_nil,
    IsEmpty.forall_iff, implies_true, and_true]
  constructor
  · rintro ⟨baseUrl, collection, distance, searchRatio, insertRatio⟩
    exact ⟨baseUrl, collection, distance, searchRatio, insertRatio⟩
  · rintro ⟨baseUrl, collection, distance, searchRatio, insertRatio⟩
    exact ⟨baseUrl, collection, distance, searchRatio, insertRatio⟩

/-- The arguments of a scenario of a configuration that keeps its rules are taken just when none of
the settings it passes on looks like an option; and they ask for the scenario's run. -/
theorem parse_scenario {c : SessionConfig} (sized : c.WordSized) (sound : c.fault? = none)
    {s : Scenario} (member : s ∈ c.traffic.scenarios) {report : String}
    (plain : report.toList.head? ≠ some '-') :
    ((∃ command, parse ("bench" :: (c.recordedRun report s).arguments) = .ok command) ↔
      c.Undashed) ∧
    ∀ command, parse ("bench" :: (c.recordedRun report s).arguments) = .ok command →
      command = .bench (c.recordedRun report s).spoken := by
  have keeps := keeps_of_fault? sound
  have named := keeps.named s member
  have valid : (c.recordedRun report s).fault? = none := keeps.valid s member
  have parsed := RunConfig.parse_eq_ok_iff (sized.recordedRun report s)
    (RunConfig.isShare_isNaN (RunConfig.searchRatio_isShare valid))
    (RunConfig.isShare_isNaN (RunConfig.insertRatio_isShare valid))
  have recorded : (c.recordedRun report s).output ≠ some "" := fun empty =>
    scenarioFile_ne_empty report named (Option.some.inj empty)
  simp only [parsed, texts_recordedRun plain named valid]
  refine ⟨⟨?_, ?_⟩, ?_⟩
  · rintro ⟨command, undashed, -⟩
    exact undashed
  · intro undashed
    exact ⟨_, undashed, recorded, rfl⟩
  · rintro command ⟨-, -, same⟩
    exact same

def plainSearch : Scenario := ⟨"search", .search, false, none, false⟩

def searching (collection : String) : SessionConfig where
  server := ⟨"serve", "/health", 60, "http://localhost:3000"⟩
  traffic := {
    collection, dimensions := 4, prefill := 0, durationSecs := 1, concurrency := 1
    distance := "Cosine", quantization := .none, batchSize := 200, searchK := 10
    searchRatio := RunConfig.defaultSearchRatio, insertRatio := RunConfig.defaultInsertRatio
    seed := 42, scenarios := [plainSearch] }
  core := CoreConfig.default

/-- A collection of the name `-vectors` keeps the rules, but its scenario's arguments are not taken
as those of `vectors` are. -/
theorem parse_scenario_dashed :
    (searching "-vectors").fault? = none ∧
    ¬ (∃ command, parse ("bench" ::
      ((searching "-vectors").recordedRun "report.json" plainSearch).arguments) = .ok command) ∧
    ∃ command, parse ("bench" ::
      ((searching "vectors").recordedRun "report.json" plainSearch).arguments) = .ok command := by
  have sized (collection : String) : (searching collection).WordSized := by
    constructor <;> (simp only [searching]; decide)
  have sound : (searching "-vectors").fault? = none := by decide +kernel
  have member (collection : String) : plainSearch ∈ (searching collection).traffic.scenarios :=
    List.mem_singleton_self plainSearch
  have plain : "report.json".toList.head? ≠ some '-' := by decide
  have unsigned : RunConfig.defaultSearchRatio ≠ Binary64.negativeZero ∧
      RunConfig.defaultInsertRatio ≠ Binary64.negativeZero := by decide +kernel
  have refused := parse_scenario (sized "-vectors") sound (member "-vectors") plain
  have taken := parse_scenario (sized "vectors") (by decide +kernel) (member "vectors") plain
  refine ⟨sound, fun accepted => ?_, taken.1.mpr ?_⟩
  · exact (refused.1.mp accepted).collection (by decide)
  · exact ⟨by decide, by decide, by decide, unsigned.1, unsigned.2⟩

end SessionConfig

end LoadBench
