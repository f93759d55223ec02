import LoadBench.Proofs.Config.Session
import LoadBench.Proofs.Files
import LoadBench.Proofs.Json.Reading
import LoadBench.Session.Report

namespace LoadBench

open Text Document

theorem FailureMarker.ofName?_name (m : FailureMarker) :
    Choice.ofName? (Choice.name m) = some m := by
  cases m <;> rfl

theorem CommandResult.ofDocument?_json (dialect : Dialect) {r : CommandResult}
    (least : -2 ^ 31 ≤ r.exitCode) (most : r.exitCode < 2 ^ 31) :
    ofDocument? dialect r.json.document = some r := by
  rw [ofDocument?, json, fields?_object dialect _ (by simp)]
  simp [-Option.bind_eq_bind, Json.document, text?, int32?_int least most]

namespace Json

theorem legible_int32 {n : Int} (least : -2 ^ 31 ≤ n) (most : n < 2 ^ 31) : (int n).Legible :=
  ⟨by omega, by rw [Numeral.wordMax]; omega⟩

theorem legibleEntries_ifPresent {key : String} {value : Option Json}
    (legible : ∀ json ∈ value, json.Legible) : LegibleEntries (ifPresent key value) := by
  cases value with
  | none => trivial
  | some json => exact ⟨legible json rfl, trivial⟩

end Json

def Json.unlessNull? : Json → Option Json
  | .null => none
  | json => some json

theorem metrics?_document {json : Json} (sorted : json.sorted = json) :
    metrics? json.document = some json.unlessNull? := by
  rw [metrics?, freeJson?, json?_document, Option.map_some, Option.map_some, sorted]
  cases json <;> rfl

namespace ScenarioResult

structure Legible (s : ScenarioResult) : Prop where
  exitLeast : -2 ^ 31 ≤ s.exitCode
  exitMost : s.exitCode < 2 ^ 31
  metrics : ∀ json ∈ s.metrics, json.Legible ∧ json.sorted = json

theorem Legible.json {s : ScenarioResult} (legible : s.Legible) : s.json.Legible := by
  have code := Json.legible_int32 legible.exitLeast legible.exitMost
  have metrics : Json.LegibleEntries (Json.ifPresent "metrics" s.metrics) :=
    Json.legibleEntries_ifPresent fun json member => (legible.metrics json member).1
  rw [ScenarioResult.json, Json.Legible, Json.legibleEntries_append]
  exact ⟨⟨trivial, trivial, code, trivial, trivial, trivial⟩, metrics⟩

/-- The result as it is read: metrics that are null are none. -/
def recalled (s : ScenarioResult) : ScenarioResult :=
  { s with metrics := s.metrics.bind Json.unlessNull? }

theorem recalled_of_present {s : ScenarioResult} (present : s.metrics ≠ some .null) :
    s.recalled = s := by
  obtain ⟨name, command, exitCode, stdoutTail, stderrTail, metrics⟩ := s
  rcases metrics with _ | ⟨_ | _⟩
  · rfl
  · exact absurd rfl present
  all_goals rfl

theorem ofDocument?_json (dialect : Dialect) {s : ScenarioResult} (legible : s.Legible) :
    ofDocument? dialect s.json.document = some s.recalled := by
  obtain ⟨name, command, exitCode, stdoutTail, stderrTail, metrics⟩ := s
  have code := int32?_int legible.exitLeast legible.exitMost
  cases metrics with
  | none =>
    rw [ofDocument?, json, Json.ifPresent, fields?_object dialect _ (by simp)]
    simp [-Option.bind_eq_bind, Json.document, text?, code, recalled]
  | some measured =>
    have read := metrics?_document (legible.metrics measured rfl).2
    rw [ofDocument?, json, Json.ifPresent, fields?_object dialect _ (by simp)]
    simp [-Option.bind_eq_bind, Json.document, text?, code, read, recalled]

end ScenarioResult

namespace Report

/-- Numbers of the sizes they have in machine words, doubles that read back, and no more levels than
the reader takes. -/
structure Legible (r : Report) : Prop where
  sized : r.config.WordSized
  startupTimeoutSecs : r.config.server.startupTimeoutSecs ≤ Numeral.wordMax
  searchRatio : Json.ReadsBack r.config.traffic.searchRatio
  insertRatio : Json.ReadsBack r.config.traffic.insertRatio
  scenarios : ∀ s ∈ r.scenarios, s.Legible
  commands : ∀ c ∈ r.commands, -2 ^ 31 ≤ c.exitCode ∧ c.exitCode < 2 ^ 31
  shallow : r.json.depth < Json.Reader.deepest

def recalled (r : Report) : Report :=
  { r with scenarios := r.scenarios.map ScenarioResult.recalled }

theorem ofDocument?_json (dialect : Dialect) {r : Report} (legible : r.Legible) :
    ofDocument? dialect r.json.document = some r.recalled := by
  obtain ⟨timestamp, config, scenarios, commands, failure⟩ := r
  have settings := SessionConfig.ofDocument?_json dialect legible.sized legible.startupTimeoutSecs
    legible.searchRatio.finite legible.insertRatio.finite
  have http : list? (ScenarioResult.ofDocument? dialect)
      (.list (Json.documentItems (scenarios.map ScenarioResult.json))) =
        some (scenarios.map ScenarioResult.recalled) :=
    list?_map fun s member => s.ofDocument?_json dialect (legible.scenarios s member)
  have core : list? (CommandResult.ofDocument? dialect)
      (.list (Json.documentItems (commands.map CommandResult.json))) = some commands :=
    list?_map_self fun c member => CommandResult.ofDocument?_json dialect
      (legible.commands c member).1 (legible.commands c member).2
  cases failure with
  | none =>
    rw [ofDocument?, json, Option.map_none, Json.ifPresent, fields?_object dialect _ (by simp)]
    simp [-Option.bind_eq_bind, Json.document, text?, settings, http, core, recalled]
  | some marker =>
    have error : Fields.orNull (Choice.ofDocument? dialect)
        (Json.optional Choice.json (some marker)).document = some (some marker) :=
      Choice.orNull_json (fun m _ => m.ofName?_name) dialect
    rw [Json.optional] at error
    rw [ofDocument?, json, Option.map_some, Json.ifPresent, fields?_object dialect _ (by simp)]
    simp [-Option.bind_eq_bind, Json.document, text?, settings, http, core, error, recalled]

theorem legible_config {r : Report} (legible : r.Legible) : r.config.json.Legible := by
  obtain ⟨dimensions, prefill, batchSize, durationSecs, concurrency, searchK, seed⟩ :=
    legible.sized
  have scenarios : Json.LegibleItems (r.config.traffic.scenarios.map Scenario.json) := by
    refine Json.legibleItems_map.mpr fun s _ => ?_
    cases filter : s.filterType <;>
      simp [Scenario.json, filter, Json.optional, Choice.json, Json.Legible, Json.LegibleEntries]
  have commands : Json.LegibleItems (r.config.core.commands.map .text) :=
    Json.legibleItems_map.mpr fun _ _ => trivial
  simp [SessionConfig.json, ServerConfig.json, TrafficConfig.json, CoreConfig.json, Choice.json,
    Json.Legible, Json.LegibleEntries, scenarios, commands, Json.legible_nat, Json.legible_number,
    legible.startupTimeoutSecs, legible.searchRatio, legible.insertRatio, dimensions, prefill,
    batchSize, durationSecs, concurrency, searchK, seed]

theorem legible_json {r : Report} (legible : r.Legible) : r.json.Legible := by
  have http : Json.LegibleItems (r.scenarios.map ScenarioResult.json) :=
    Json.legibleItems_map.mpr fun s member => (legible.scenarios s member).json
  have core : Json.LegibleItems (r.commands.map CommandResult.json) := by
    refine Json.legibleItems_map.mpr fun c member => ?_
    have code := Json.legible_int32 (legible.commands c member).1 (legible.commands c member).2
    exact ⟨trivial, code, trivial, trivial, trivial⟩
  have error : Json.LegibleEntries (Json.ifPresent "error" (r.failure.map Choice.json)) := by
    refine Json.legibleEntries_ifPresent fun json member => ?_
    obtain ⟨marker, -, rfl⟩ := Option.mem_map.mp member
    trivial
  rw [json, Json.Legible, Json.legibleEntries_append]
  exact ⟨⟨trivial, legible_config legible, http, core, trivial⟩, error⟩

theorem ofJson?_pretty {r : Report} (legible : r.Legible) : ofJson? r.pretty = some r.recalled := by
  rw [ofJson?, pretty, Json.Reader.document?_pretty (legible_json legible) legible.shallow]
  exact ofDocument?_json Json.dialect legible

/-- A document has a failure and metrics just where a report has them. -/
structure Shown (r : Report) (d : Document) : Prop where
  failure : (d.entry? "error").isSome = r.failure.isSome
  metrics : ∃ items, d.entry? "http" = some (.list items) ∧
    items.map (fun item => (item.entry? "metrics").isSome) =
      r.scenarios.map (·.metrics.isSome)

theorem shown_document (r : Report) : r.Shown r.json.document where
  failure := by
    rw [entry?_document, Option.isSome_map]
    cases error : r.failure <;> simp [json, error, Json.get?, Json.ifPresent]
  metrics := by
    refine ⟨_, entry?_document "http" r.json, ?_⟩
    rw [Json.documentItems_eq_map, List.map_map, List.map_map]
    refine List.map_congr_left fun s _ => ?_
    rw [Function.comp_apply, Function.comp_apply, entry?_document, Option.isSome_map]
    cases metrics : s.metrics <;>
      simp [ScenarioResult.json, metrics, Json.get?, Json.ifPresent]

theorem recalled_of_present {r : Report} (present : ∀ s ∈ r.scenarios, s.metrics ≠ some .null) :
    r.recalled = r := by
  have same : r.scenarios.map ScenarioResult.recalled = r.scenarios :=
    (List.map_congr_left fun s member =>
      ScenarioResult.recalled_of_present (present s member)).trans (List.map_id _)
  rw [recalled, same]

theorem write_of_created {r : Report} {files folders : Files} {path : String}
    (created : files.createParent path = .ok folders) :
    r.write files path = folders.write path (Utf8.encode r.pretty) := by
  rw [write, created]
  rfl

/-- What a report's text says is the report, but for metrics that are null; and a file that the
report is written to holds that text. -/
theorem reads_back {r : Report} (legible : r.Legible) :
    (∃ d, Json.Reader.document? r.pretty = some d ∧ r.Shown d) ∧
    ofJson? r.pretty = some r.recalled ∧
    ((∀ s ∈ r.scenarios, s.metrics ≠ some .null) → ofJson? r.pretty = some r) ∧
    ∀ files after path, r.write files path = .ok after → ¬ after.Swallows path →
      after.readText path = .ok r.pretty := by
  have document := Json.Reader.document?_pretty (legible_json legible) legible.shallow
  have read := ofJson?_pretty legible
  refine ⟨⟨_, document, r.shown_document⟩, read, ?_, ?_⟩
  · intro present
    rw [read, recalled_of_present present]
  · intro files after path written kept
    cases made : files.createParent path with
    | error =>
      rw [write, made] at written
      cases written
    | ok folders =>
      rw [write_of_created made] at written
      exact Files.readText_write written kept

def threeResults : Report where
  timestamp := "2026-01-02T03:04:05.000006Z"
  config := ⟨⟨"serve", "/health", 60, "http://localhost:3000"⟩,
    ⟨"vectors", 8, 0, 1, 1, "Cosine", .none, 200, 10, RunConfig.defaultSearchRatio,
      RunConfig.defaultInsertRatio, 42, []⟩, CoreConfig.default⟩
  scenarios := [⟨"search", "bench", 1, "", "\x1b[1m\"é\"\x00", none⟩,
    ⟨"insert", "bench", 0, "done", "", some (.object [("rates", .list [.float .zero]),
      ("total", .int (-7))])⟩,
    ⟨"mixed", "bench", 0, "", "", some .null⟩]
  commands := [⟨"true", 0, "", ""⟩]
  failure := none

theorem legible_threeResults : threeResults.Legible where
  sized := by constructor <;> decide
  startupTimeoutSecs := by decide
  searchRatio := by decide +kernel
  insertRatio := by decide +kernel
  scenarios := by
    have zero : Json.ReadsBack .zero := by decide +kernel
    have measured : (Json.object [("rates", .list [.float .zero]), ("total", .int (-7))]).Legible :=
      ⟨⟨zero, trivial⟩, ⟨by decide, by decide⟩, trivial⟩
    intro s member
    simp only [threeResults, List.mem_cons, List.not_mem_nil, or_false] at member
    rcases member with rfl | rfl | rfl
    · exact ⟨by decide, by decide, nofun⟩
    · refine ⟨by decide, by decide, ?_⟩
      rintro json ⟨⟩
      exact ⟨measured, rfl⟩
    · refine ⟨by decide, by decide, ?_⟩
      rintro json ⟨⟩
      exact ⟨trivial, rfl⟩
  commands := by decide
  shallow := by decide +kernel

theorem reads_back_threeResults :
    threeResults.Legible ∧ ofJson? threeResults.pretty = some threeResults.recalled ∧
    ∃ after, threeResults.write ⟨[]⟩ "perf/report.json" = .ok after ∧
      after.readText "perf/report.json" = .ok threeResults.pretty := by
  obtain ⟨-, read, -, holds⟩ := reads_back legible_threeResults
  have made : Files.createParent ⟨[]⟩ "perf/report.json" = .ok ⟨[(["perf"], .folder)]⟩ := rfl
  have leads : Files.place ⟨[(["perf"], .folder)]⟩ "perf/report.json" =
      .ok ["perf", "report.json"] := rfl
  have whole : threeResults.write ⟨[]⟩ "perf/report.json" =
      .ok (Files.insert ⟨[(["perf"], .folder)]⟩ ["perf", "report.json"]
        (.file (Utf8.encode threeResults.pretty))) := by
    rw [write_of_created made]
    exact Files.write_of_missing leads (by decide +kernel) rfl rfl
  exact ⟨legible_threeResults, read, _, whole,
    holds _ _ _ whole (Files.not_swallows_insert leads nofun)⟩

end Report

end LoadBench
