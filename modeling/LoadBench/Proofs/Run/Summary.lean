import LoadBench.Proofs.Config.Choice
import LoadBench.Proofs.Files
import LoadBench.Proofs.Json.Reading
import LoadBench.Session.Executor

namespace LoadBench

open Text Document

namespace Json

theorem prettyEntries_infix {key : String} {value : Json} {entries : List (String × Json)}
    (k : Nat) (member : (key, value) ∈ entries) :
    newline k ++ (stringText key ++ ':' :: ' ' :: prettyText k value) <:+:
      prettyEntries k entries := by
  induction entries with
  | nil => exact (List.not_mem_nil member).elim
  | cons entry rest ih =>
    have split : prettyEntries k (entry :: rest) =
        [','] ++ (newline k ++ (stringText entry.1 ++ ':' :: ' ' :: prettyText k entry.2)) ++
          prettyEntries k rest := by
      simp only [prettyEntries, List.append_assoc, List.cons_append, List.nil_append]
    rw [split]
    rcases List.mem_cons.mp member with rfl | later
    · exact List.infix_append _ _ _
    · exact (ih later).trans (List.suffix_append _ _).isInfix

theorem entry_infix_prettyText {key : String} {value : Json} {entries : List (String × Json)}
    (k : Nat) (member : (key, value) ∈ entries) :
    newline (k + 1) ++ (stringText key ++ ':' :: ' ' :: prettyText (k + 1) value) <:+:
      prettyText k (.object entries) := by
  rcases entries with _ | ⟨⟨name, first⟩, rest⟩
  · exact (List.not_mem_nil member).elim
  · have split : prettyText k (.object ((name, first) :: rest)) =
        ['\x7b'] ++
          (newline (k + 1) ++ (stringText name ++ ':' :: ' ' :: prettyText (k + 1) first)) ++
          (prettyEntries (k + 1) rest ++ (newline k ++ ['\x7d'])) := by
      simp only [prettyText, List.append_assoc, List.cons_append, List.nil_append]
    rw [split]
    rcases List.mem_cons.mp member with same | later
    · cases same
      exact List.infix_append _ _ _
    · have inside := prettyEntries_infix (k + 1) later
      exact (inside.trans (List.prefix_append _ _).isInfix).trans (List.suffix_append _ _).isInfix

end Json

namespace Document

theorem float?_number (x : Binary64) :
    float? (Json.number x).document = if x.isFinite then some x else none := by
  rw [Json.number]
  split <;> rfl

theorem ite_some_bind {α β : Type} (p : Prop) [Decidable p] (a : α) (next : α → Option β) :
    ((if p then some a else none) >>= next) = if p then next a else none := by
  split <;> rfl

end Document

namespace Statistics

def numbers (s : Statistics) : List Binary64 :=
  [s.average, s.p50, s.p95, s.p99, s.least, s.greatest, s.rate]

def isWhole (s : Statistics) : Bool := s.numbers.all Binary64.isFinite

structure Legible (s : Statistics) : Prop where
  count : s.count ≤ Numeral.wordMax
  numbers : ∀ x ∈ s.numbers, x.isFinite = true → Json.ReadsBack x

theorem ofDocument?_entries (dialect : Dialect) {s : Statistics}
    (count : s.count ≤ Numeral.wordMax) :
    ofDocument? dialect (Json.object s.entries).document = if s.isWhole then some s else none := by
  rw [ofDocument?, entries, fields?_object dialect _ (by simp)]
  -- Each number is read if it is finite, one condition within the other: together, `isWhole`.
  simp [-Option.bind_eq_bind, Json.document, Json.nat, word?_nat count, float?_number,
    ite_some_bind, isWhole, numbers, ite_and]

theorem ofDocument?_empty (dialect : Dialect) :
    ofDocument? dialect (Json.object []).document = none := by
  have distinct : (([] : List (String × Json)).map (·.1)).Nodup := List.nodup_nil
  rw [ofDocument?, fields?_object dialect _ distinct]
  rfl

theorem embedded?_object (dialect : Dialect) (entries : List (String × Json)) :
    embedded? dialect (Json.object entries).document =
      some (ofDocument? dialect (Json.object entries).document) := by
  have valued := json?_document (.object entries)
  rw [Json.document] at valued ⊢
  rw [embedded?, valued, Option.map_some]

theorem embedded?_json (dialect : Dialect) {s : Option Statistics} (legible : ∀ t ∈ s, t.Legible) :
    embedded? dialect (json s).document = some (s.filter isWhole) := by
  cases s with
  | none => exact (embedded?_object dialect []).trans (congrArg some (ofDocument?_empty dialect))
  | some t =>
    have read := ofDocument?_entries dialect (legible t rfl).count
    rw [json, Option.map_some, Option.getD_some, embedded?_object, read, Option.filter_some]

theorem legible_json {s : Option Statistics} (legible : ∀ t ∈ s, t.Legible) :
    (json s).Legible := by
  cases s with
  | none => trivial
  | some t =>
    have numbers := (legible t rfl).numbers
    simp only [Statistics.numbers, List.forall_mem_cons] at numbers
    obtain ⟨average, p50, p95, p99, least, greatest, rate, -⟩ := numbers
    have number {x : Binary64} := Json.legible_number_of_finite (x := x)
    exact ⟨Json.legible_nat (legible t rfl).count, number average, number p50, number p95,
      number p99, number least, number greatest, number rate, trivial⟩

end Statistics

theorem Counts.ofDocument?_json (dialect : Dialect) {c : Counts}
    (search : c.search ≤ Numeral.wordMax) (insert : c.insert ≤ Numeral.wordMax) :
    RunSummary.countsOfDocument? dialect
      (Json.object [("search", .nat c.search), ("insert", .nat c.insert)]).document = some c := by
  rw [RunSummary.countsOfDocument?, fields?_object dialect _ (by simp)]
  simp [-Option.bind_eq_bind, Json.document, Json.nat, word?_nat search, word?_nat insert]

namespace RunSummary

structure Legible (s : RunSummary) : Prop where
  duration : Json.ReadsBack s.duration
  dimensions : s.dimensions ≤ Numeral.wordMax
  prefill : s.prefill ≤ Numeral.wordMax
  concurrency : s.concurrency ≤ Numeral.wordMax
  searchK : s.searchK ≤ Numeral.wordMax
  search : ∀ t ∈ s.search, t.Legible
  insert : ∀ t ∈ s.insert, t.Legible
  searchErrors : s.errors.search ≤ Numeral.wordMax
  insertErrors : s.errors.insert ≤ Numeral.wordMax

/-- The summary as it is read: a kind has its statistics only if all their numbers are finite. -/
def recalled (s : RunSummary) : RunSummary :=
  { s with
    search := s.search.filter Statistics.isWhole
    insert := s.insert.filter Statistics.isWhole }

theorem ofDocument?_json (dialect : Dialect) {s : RunSummary} (legible : s.Legible) :
    ofDocument? dialect s.json.document = some s.recalled := by
  have mode := Choice.ofDocument?_json s.mode.ofName?_name dialect
  have quantization := Choice.ofDocument?_json s.quantization.ofName?_name dialect
  have filterType : Fields.orNull (Choice.ofDocument? dialect)
      (Json.optional Choice.json s.filterType).document = some s.filterType :=
    Choice.orNull_json (fun f _ => f.ofName?_name) dialect
  have search := Statistics.embedded?_json dialect legible.search
  have insert := Statistics.embedded?_json dialect legible.insert
  have errors := Counts.ofDocument?_json dialect legible.searchErrors legible.insertErrors
  have duration := float?_number s.duration
  rw [if_pos legible.duration.finite] at duration
  rw [Json.document, Json.nat, Json.nat] at errors
  rw [ofDocument?, json, fields?_object dialect _ (by simp)]
  simp [-Option.bind_eq_bind, Json.document, Json.nat, text?, bool?, duration, mode, quantization,
    filterType, search, insert, errors, recalled, word?_nat legible.dimensions,
    word?_nat legible.prefill, word?_nat legible.concurrency, word?_nat legible.searchK]

theorem legible_json {s : RunSummary} (legible : s.Legible) : s.json.Legible := by
  have filterType : (Json.optional Choice.json s.filterType).Legible := by
    cases s.filterType <;> trivial
  exact ⟨Json.legible_number legible.duration, trivial, trivial,
    Json.legible_nat legible.dimensions, trivial, trivial, Json.legible_nat legible.prefill,
    Json.legible_nat legible.concurrency, Json.legible_nat legible.searchK, trivial, filterType,
    Statistics.legible_json legible.search, Statistics.legible_json legible.insert,
    ⟨Json.legible_nat legible.searchErrors, Json.legible_nat legible.insertErrors, trivial⟩,
    trivial⟩

theorem depth_json (s : RunSummary) : s.json.depth ≤ 2 := by
  have number (x : Binary64) : (Json.number x).depth = 0 := by
    rw [Json.number]
    split <;> rfl
  have filterType : (Json.optional Choice.json s.filterType).depth = 0 := by
    cases s.filterType <;> rfl
  have statistics (t : Option Statistics) : (Statistics.json t).depth ≤ 1 := by
    refine Nat.succ_le_succ (Json.depthEntries_le_iff.mpr ?_)
    cases t <;> simp [Statistics.entries, Json.depth, Json.nat, number]
  refine Nat.succ_le_succ (Json.depthEntries_le_iff.mpr ?_)
  simp [Json.depth, Json.depthEntries, Json.nat, Choice.json, number, filterType, statistics]

structure Recalls (s : RunSummary) (text : String) : Prop where
  summary : ofJson? text = some s.recalled
  value : (Json.Reader.document? text >>= freeJson?) = some s.json.sorted

theorem recalls_pretty_append {s : RunSummary} (legible : s.Legible) {tail : String}
    (blank : ∀ c ∈ tail.toList, Json.Reader.isSpace c = true) : s.Recalls (s.pretty ++ tail) := by
  have shallow : s.json.depth < Json.Reader.deepest := Nat.lt_of_le_of_lt s.depth_json (by decide)
  have document := Json.Reader.document?_pretty_append (legible_json legible) shallow blank
  constructor
  · rw [ofJson?, pretty, document]
    exact ofDocument?_json Json.dialect legible
  · rw [pretty, document, some_bind, freeJson?, json?_document, Option.map_some]

theorem recalls_line {s : RunSummary} (legible : s.Legible) : s.Recalls (s.pretty ++ "\n") := by
  have blank : ∀ c ∈ "\n".toList, Json.Reader.isSpace c = true := List.forall_mem_singleton.mpr rfl
  exact recalls_pretty_append legible blank

def statistics (s : RunSummary) : OperationKind → Option Statistics
  | .search => s.search
  | .insert => s.insert

theorem statistics_recalled (s : RunSummary) (kind : OperationKind) :
    s.recalled.statistics kind = (s.statistics kind).filter Statistics.isWhole := by
  cases kind <;> rfl

theorem recalled_of_whole {s : RunSummary}
    (whole : ∀ kind, ∀ t ∈ s.statistics kind, t.isWhole = true) : s.recalled = s := by
  have keeps (kind : OperationKind) :
      (s.statistics kind).filter Statistics.isWhole = s.statistics kind := by
    cases found : s.statistics kind with
    | none => rfl
    | some t => rw [Option.filter_some, if_pos (whole kind t found)]
  have search : s.search.filter Statistics.isWhole = s.search := keeps .search
  have insert : s.insert.filter Statistics.isWhole = s.insert := keeps .insert
  rw [recalled, search, insert]

theorem empty_infix_pretty {s : RunSummary} {kind : OperationKind}
    (empty : s.statistics kind = none) :
    ("\n  \"" ++ Choice.name kind ++ "\": \x7b\x7d").toList <:+: s.pretty.toList := by
  obtain ⟨entries, same, member⟩ : ∃ entries, s.json = .object entries ∧
      (Choice.name kind, Statistics.json (s.statistics kind)) ∈ entries :=
    ⟨_, rfl, by cases kind <;> simp [statistics, Choice.name]⟩
  have line := Json.entry_infix_prettyText 0 member
  have text : ("\n  \"" ++ Choice.name kind ++ "\": \x7b\x7d").toList =
      Json.newline 1 ++ (Json.stringText (Choice.name kind) ++ ':' :: ' ' ::
        Json.prettyText 1 (Statistics.json none)) := by
    cases kind <;> rfl
  rw [text, pretty, Json.pretty, String.toList_ofList, same, ← empty]
  exact line

theorem metrics_of_write {s : RunSummary} (legible : s.Legible) {files after : Files}
    {path : String} (written : s.write files path = .ok after) (kept : ¬ after.Swallows path) :
    after.readText path = .ok (s.pretty ++ "\n") ∧ readMetrics after path = some s.json.sorted := by
  have text := Files.readText_createParent_write written kept
  refine ⟨text, ?_⟩
  rw [readMetrics, text]
  exact (recalls_line legible).value

end RunSummary

theorem record_of_recordRun {c : RunConfig} {files after : Files} {ch later : Channel}
    {s : RunSummary} (run : recordRun c files ch = some (.ok s, after, later)) :
    c.record s files = .ok after := by
  obtain ⟨⟨result, closed⟩, -, same⟩ := Option.map_eq_some_iff.mp run
  cases result with
  | error fault => cases same
  | ok summary =>
    dsimp only at same
    split at same
    · cases same
    · rename_i recorded
      cases same
      exact recorded

namespace RunSummary

/-- How a summary can be had again from its text and from a file that it is written to. -/
structure Recovered (s : RunSummary) : Prop where
  text : s.Recalls s.pretty
  line : s.Recalls (s.pretty ++ "\n")
  whole : (∀ kind, ∀ t ∈ s.statistics kind, t.isWhole = true) → s.recalled = s
  lost : ∀ kind, ∀ t ∈ s.statistics kind, ∀ x ∈ t.numbers, x.isFinite = false →
    s.recalled.statistics kind = none
  empty : ∀ kind, s.statistics kind = none →
    ("\n  \"" ++ Choice.name kind ++ "\": \x7b\x7d").toList <:+: s.pretty.toList ∧
      s.recalled.statistics kind = none
  file : ∀ files after path, s.write files path = .ok after → ¬ after.Swallows path →
    after.readText path = .ok (s.pretty ++ "\n")
  metrics : ∀ name c files ch after later, ∀ path ∈ c.output,
    recordRun c files ch = some (.ok s, after, later) → ¬ after.Swallows path →
      ∃ result, runWithin name c files ch = some (result, after, later) ∧
        result.metrics = some s.json.sorted ∧ readMetrics after path = result.metrics

/-- A summary reads back from its text and its file, a kind with a number that is not finite being
empty; and the metrics of a run within the process are those in the file that its summary is written
to. -/
theorem recalled_from_text {s : RunSummary} (legible : s.Legible) : s.Recovered where
  text := by
    have blank : ∀ c ∈ "".toList, Json.Reader.isSpace c = true := List.forall_mem_nil _
    have recalls := recalls_pretty_append legible blank
    rwa [String.append_empty] at recalls
  line := recalls_line legible
  whole := recalled_of_whole
  lost kind t found x inside unbounded := by
    have broken : t.isWhole = false := by
      rw [Statistics.isWhole, List.all_eq_false]
      exact ⟨x, inside, by rw [unbounded]; exact Bool.false_ne_true⟩
    rw [statistics_recalled, found, Option.filter_some, broken]
    rfl
  empty kind none := by
    refine ⟨empty_infix_pretty none, ?_⟩
    rw [statistics_recalled, none]
    rfl
  file files after path written kept := (metrics_of_write legible written kept).1
  metrics name c files ch after later path output run kept := by
    have written := record_of_recordRun run
    rw [RunConfig.record, output] at written
    have read := (metrics_of_write legible written kept).2
    refine ⟨.ofSummary name c s, ?_, rfl, read⟩
    rw [runWithin, run]
    rfl

def instantSearches : RunSummary where
  duration := Binary64.zero
  mode := .mixed
  collection := "\"a\\b\"\né\x00"
  dimensions := 8
  distance := "Cosine"
  quantization := .sq8
  prefill := 0
  concurrency := 2
  searchK := 10
  includeMetadata := false
  filterType := some .range
  search := some ⟨1, .zero, .zero, .zero, .zero, .zero, .zero, .infinity false⟩
  insert := some ⟨2, RunConfig.defaultSearchRatio, .ofNat 1, .ofNat 1, .ofNat 1,
    RunConfig.defaultInsertRatio, .ofNat 1, .ofNat 4⟩
  errors := ⟨3, 0⟩

theorem legible_instantSearches : instantSearches.Legible where
  duration := by decide +kernel
  dimensions := by decide
  prefill := by decide
  concurrency := by decide
  searchK := by decide
  search := by
    rintro t ⟨⟩
    exact ⟨by decide, by decide +kernel⟩
  insert := by
    rintro t ⟨⟩
    exact ⟨by decide, by decide +kernel⟩
  searchErrors := by decide
  insertErrors := by decide

theorem recalled_from_text_instantSearches :
    instantSearches.Legible ∧
    ofJson? instantSearches.pretty = some { instantSearches with search := none } ∧
    ∃ after, instantSearches.write ⟨[]⟩ "perf/summary.json" = .ok after ∧
      after.readText "perf/summary.json" = .ok (instantSearches.pretty ++ "\n") := by
  have recovered := recalled_from_text legible_instantSearches
  have lost : instantSearches.recalled = { instantSearches with search := none } := by
    decide +kernel
  have made : Files.createParent ⟨[]⟩ "perf/summary.json" = .ok ⟨[(["perf"], .folder)]⟩ := rfl
  have leads : Files.place ⟨[(["perf"], .folder)]⟩ "perf/summary.json" =
      .ok ["perf", "summary.json"] := rfl
  have whole : instantSearches.write ⟨[]⟩ "perf/summary.json" =
      .ok (Files.insert ⟨[(["perf"], .folder)]⟩ ["perf", "summary.json"]
        (.file (Utf8.encode (instantSearches.pretty ++ "\n")))) := by
    rw [write, made]
    exact Files.write_of_missing leads (by decide +kernel) rfl rfl
  refine ⟨legible_instantSearches, ?_, _, whole,
    recovered.file _ _ _ whole (Files.not_swallows_insert leads nofun)⟩
  rw [← lost]
  exact recovered.text.summary

end RunSummary

end LoadBench
