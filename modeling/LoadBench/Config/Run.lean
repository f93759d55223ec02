import LoadBench.Config.Choice
import LoadBench.Decimal.Layout
import LoadBench.Duration

namespace LoadBench

open Text

structure RunConfig where
  baseUrl : String
  collection : String
  dimensions : Nat
  distance : String
  quantization : Quantization
  prefill : Nat
  batchSize : Nat
  mode : Mode
  durationSecs : Nat
  concurrency : Nat
  searchK : Nat
  searchRatio : Binary64
  insertRatio : Binary64
  useFilter : Bool
  filterType : FilterType
  includeMetadata : Bool
  seed : Nat
  requestTimeoutSecs : Nat
  output : Option String
deriving DecidableEq

namespace RunConfig

def defaultSearchRatio : Binary64 := Binary64.ofRatio false 7 10

def defaultInsertRatio : Binary64 := Binary64.ofRatio false 2 10

def default : RunConfig where
  baseUrl := "http://localhost:3000"
  collection := "perf_collection"
  dimensions := 384
  distance := "Cosine"
  quantization := .none
  prefill := 10000
  batchSize := 200
  mode := .mixed
  durationSecs := 60
  concurrency := 32
  searchK := 10
  searchRatio := defaultSearchRatio
  insertRatio := defaultInsertRatio
  useFilter := false
  filterType := .exact
  includeMetadata := true
  seed := 42
  requestTimeoutSecs := 30
  output := none

def duration (c : RunConfig) : Duration := Duration.ofSeconds c.durationSecs

def requestTimeout (c : RunConfig) : Duration := Duration.ofSeconds c.requestTimeoutSecs

def activeFilter (c : RunConfig) : Option FilterType :=
  if c.useFilter then some c.filterType else none

inductive Fault where
  | emptyBaseUrl
  | emptyCollection
  | zeroDimensions
  | zeroBatchSize
  | zeroDuration
  | zeroConcurrency
  | zeroSearchK
  | zeroRequestTimeout
  | searchRatioOutside (ratio : Binary64)
  | insertRatioOutside (ratio : Binary64)
  | ratiosExceedOne (total : Binary64)
deriving DecidableEq

def Fault.message : Fault → String
  | .emptyBaseUrl => "base_url cannot be empty"
  | .emptyCollection => "collection cannot be empty"
  | .zeroDimensions => "dimensions must be > 0"
  | .zeroBatchSize => "batch_size must be > 0"
  | .zeroDuration => "duration must be > 0"
  | .zeroConcurrency => "concurrency must be > 0"
  | .zeroSearchK => "search_k must be > 0"
  | .zeroRequestTimeout => "request_timeout_secs must be > 0"
  | .searchRatioOutside ratio =>
    "search_ratio must be within [0, 1], got " ++ Decimal.plainText ratio
  | .insertRatioOutside ratio =>
    "insert_ratio must be within [0, 1], got " ++ Decimal.plainText ratio
  | .ratiosExceedOne total =>
    "search_ratio + insert_ratio must be <= 1, got " ++ Decimal.plainText total

def isShare (x : Binary64) : Bool := Binary64.zero.le x && x.le (Binary64.ofNat 1)

/-- The greatest total of the two shares, one unit in the last place above one. -/
def greatestTotal : Binary64 := ⟨(Binary64.ofNat 1).bits + 1⟩

/-- Each rule as the condition that breaks it and the fault it then is, in the order of report. -/
def rules (c : RunConfig) : List (Bool × Fault) :=
  let total := c.searchRatio.add c.insertRatio
  [(c.baseUrl = "", .emptyBaseUrl),
    (c.collection = "", .emptyCollection),
    (c.dimensions = 0, .zeroDimensions),
    (c.batchSize = 0, .zeroBatchSize),
    (c.durationSecs = 0, .zeroDuration),
    (c.concurrency = 0, .zeroConcurrency),
    (c.searchK = 0, .zeroSearchK),
    (c.requestTimeoutSecs = 0, .zeroRequestTimeout),
    (!isShare c.searchRatio, .searchRatioOutside c.searchRatio),
    (!isShare c.insertRatio, .insertRatioOutside c.insertRatio),
    (greatestTotal.lt total, .ratiosExceedOne total)]

def fault? (c : RunConfig) : Option Fault := (c.rules.find? (·.1)).map (·.2)

def arguments (c : RunConfig) : List String :=
  ["--base-url", c.baseUrl,
    "--collection", c.collection,
    "--dimensions", Numeral.toString c.dimensions,
    "--distance", c.distance,
    "--quantization", Choice.name c.quantization,
    "--prefill", Numeral.toString c.prefill,
    "--batch-size", Numeral.toString c.batchSize,
    "--duration", Numeral.toString c.durationSecs,
    "--concurrency", Numeral.toString c.concurrency,
    "--mode", Choice.name c.mode,
    "--search-k", Numeral.toString c.searchK,
    "--search-ratio", Decimal.plainText c.searchRatio,
    "--insert-ratio", Decimal.plainText c.insertRatio,
    "--seed", Numeral.toString c.seed,
    "--request-timeout-secs", Numeral.toString c.requestTimeoutSecs] ++
  (if c.useFilter then ["--use-filter", "--filter-type", Choice.name c.filterType] else []) ++
  (if c.includeMetadata then [] else ["--no-metadata"]) ++
  (match c.output with
    | some path => ["--output", path]
    | none => [])

def fieldNames : List String :=
  ["base_url", "collection", "dimensions", "distance_metric", "quantization", "prefill",
    "batch_size", "mode", "duration_secs", "concurrency", "search_k", "search_ratio",
    "insert_ratio", "use_filter", "filter_type", "include_metadata", "seed",
    "request_timeout_secs", "output"]

open Document in
def ofDocument? (dialect : Dialect) (d : Document) : Option RunConfig := do
  let fields ← d.fields? dialect fieldNames
  return {
    baseUrl := ← fields.required "base_url" text?
    collection := ← fields.required "collection" text?
    dimensions := ← fields.required "dimensions" word?
    distance := ← fields.required "distance_metric" text?
    quantization := ← fields.required "quantization" (Choice.ofDocument? dialect)
    prefill := ← fields.required "prefill" word?
    batchSize := ← fields.required "batch_size" word?
    mode := ← fields.required "mode" (Choice.ofDocument? dialect)
    durationSecs := ← fields.required "duration_secs" word?
    concurrency := ← fields.required "concurrency" word?
    searchK := ← fields.required "search_k" word?
    searchRatio := ← fields.required "search_ratio" float?
    insertRatio := ← fields.required "insert_ratio" float?
    useFilter := ← fields.required "use_filter" bool?
    filterType := ← fields.required "filter_type" (Choice.ofDocument? dialect)
    includeMetadata := ← fields.required "include_metadata" bool?
    seed := ← fields.required "seed" word?
    requestTimeoutSecs := ← fields.required "request_timeout_secs" word?
    output := ← fields.nullable "output" text? }

end RunConfig

end LoadBench
