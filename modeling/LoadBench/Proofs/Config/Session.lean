import LoadBench.Config.Session
import LoadBench.Proofs.Config.Choice

namespace LoadBench

open Text Document

theorem ServerConfig.ofDocument?_json (dialect : Dialect) {c : ServerConfig}
    (startupTimeoutSecs : c.startupTimeoutSecs ≤ Numeral.wordMax) :
    ofDocument? dialect c.json.document = some c := by
  rw [ofDocument?, json, fields?_object dialect _ (by simp)]
  simp [-Option.bind_eq_bind, Json.document, Json.nat, text?, word?_nat startupTimeoutSecs]

theorem Scenario.ofDocument?_json (dialect : Dialect) (s : Scenario) :
    ofDocument? dialect s.json.document = some s := by
  have mode := Choice.ofDocument?_json s.mode.ofName?_name dialect
  have filterType : Fields.orNull (Choice.ofDocument? dialect)
      (Json.optional Choice.json s.filterType).document = some s.filterType :=
    Choice.orNull_json (fun f _ => f.ofName?_name) dialect
  rw [ofDocument?, json, fields?_object dialect _ (by simp)]
  simp [-Option.bind_eq_bind, Json.document, text?, bool?, mode, filterType]

theorem CoreConfig.ofDocument?_json (dialect : Dialect) (c : CoreConfig) :
    ofDocument? dialect c.json.document = some c := by
  have commands : list? text? (.list (Json.documentItems (c.commands.map .text))) =
      some c.commands := list?_map_self fun _ _ => rfl
  rw [ofDocument?, json, fields?_object dialect _ (by simp)]
  simp [-Option.bind_eq_bind, Json.document, bool?, commands]

structure SessionConfig.WordSized (c : SessionConfig) : Prop where
  dimensions : c.traffic.dimensions ≤ Numeral.wordMax
  prefill : c.traffic.prefill ≤ Numeral.wordMax
  batchSize : c.traffic.batchSize ≤ Numeral.wordMax
  durationSecs : c.traffic.durationSecs ≤ Numeral.wordMax
  concurrency : c.traffic.concurrency ≤ Numeral.wordMax
  searchK : c.traffic.searchK ≤ Numeral.wordMax
  seed : c.traffic.seed ≤ Numeral.wordMax

theorem TrafficConfig.ofDocument?_json (dialect : Dialect) {c : SessionConfig}
    (sized : c.WordSized) (searchRatio : c.traffic.searchRatio.isFinite = true)
    (insertRatio : c.traffic.insertRatio.isFinite = true) :
    ofDocument? dialect c.traffic.json.document = some c.traffic := by
  have quantization := Choice.ofDocument?_json c.traffic.quantization.ofName?_name dialect
  have scenarios : list? (Scenario.ofDocument? dialect)
      (.list (Json.documentItems (c.traffic.scenarios.map Scenario.json))) =
        some c.traffic.scenarios := list?_map_self fun s _ => s.ofDocument?_json dialect
  rw [ofDocument?, json, fields?_object dialect _ (by simp)]
  simp [-Option.bind_eq_bind, Json.document, Json.nat, Json.number, text?, float?, searchRatio,
    insertRatio, quantization, scenarios, word?_nat sized.dimensions, word?_nat sized.prefill,
    word?_nat sized.batchSize, word?_nat sized.durationSecs, word?_nat sized.concurrency,
    word?_nat sized.searchK, word?_nat sized.seed]

namespace SessionConfig

/-- The settings of a scenario's run: its own where it has them, those of all traffic elsewhere, and
half a minute for a request. -/
def settings (c : SessionConfig) (s : Scenario) (output : Option String) : RunConfig where
  baseUrl := c.server.baseUrl
  collection := c.traffic.collection
  dimensions := c.traffic.dimensions
  distance := c.traffic.distance
  quantization := c.traffic.quantization
  prefill := c.traffic.prefill
  batchSize := c.traffic.batchSize
  mode := s.mode
  durationSecs := c.traffic.durationSecs
  concurrency := c.traffic.concurrency
  searchK := c.traffic.searchK
  searchRatio := c.traffic.searchRatio
  insertRatio := c.traffic.insertRatio
  useFilter := s.useFilter
  filterType := s.filterType.getD .exact
  includeMetadata := !s.noMetadata
  seed := c.traffic.seed
  requestTimeoutSecs := 30
  output

theorem run_eq_settings (c : SessionConfig) (s : Scenario) : c.run s = c.settings s none := rfl

theorem recordedRun_eq_settings (c : SessionConfig) (report : String) (s : Scenario) :
    c.recordedRun report s =
      c.settings s (some (Path.join (scenarioFolder report) (s.name ++ ".json"))) := by
  rw [recordedRun, run_eq_settings]
  rfl

end SessionConfig

theorem SessionConfig.ofDocument?_json (dialect : Dialect) {c : SessionConfig}
    (sized : c.WordSized) (startupTimeoutSecs : c.server.startupTimeoutSecs ≤ Numeral.wordMax)
    (searchRatio : c.traffic.searchRatio.isFinite = true)
    (insertRatio : c.traffic.insertRatio.isFinite = true) :
    ofDocument? dialect c.json.document = some c := by
  have server := ServerConfig.ofDocument?_json dialect startupTimeoutSecs
  have traffic := TrafficConfig.ofDocument?_json dialect sized searchRatio insertRatio
  have core := CoreConfig.ofDocument?_json dialect c.core
  rw [ofDocument?, json, fields?_object dialect _ (by simp)]
  simp [-Option.bind_eq_bind, server, traffic, core]

end LoadBench
