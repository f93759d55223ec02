import LoadBench.Decimal.Fixed
import LoadBench.Files
import LoadBench.Json.Printer
import LoadBench.Json.Reader
import LoadBench.Latency.Statistics

namespace LoadBench

open Text

structure RunSummary where
  /-- Seconds from the start of the workers to the end of the last call. -/
  duration : Binary64
  mode : Mode
  collection : String
  dimensions : Nat
  distance : String
  quantization : Quantization
  prefill : Nat
  concurrency : Nat
  searchK : Nat
  includeMetadata : Bool
  filterType : Option FilterType
  search : Option Statistics
  insert : Option Statistics
  errors : Counts
deriving DecidableEq

namespace RunSummary

def ofRun (c : RunConfig) (collector : Collector) (wall : Duration) : RunSummary where
  duration := wall.seconds
  mode := c.mode
  collection := c.collection
  dimensions := c.dimensions
  distance := c.distance
  quantization := c.quantization
  prefill := c.prefill
  concurrency := c.concurrency
  searchK := c.searchK
  includeMetadata := c.includeMetadata
  filterType := c.activeFilter
  search := collector.summarize .search wall
  insert := collector.summarize .insert wall
  errors := collector.errors

def rows : List (String × (Statistics → String)) :=
  [("count", fun s => Numeral.toString s.count),
    ("qps", fun s => Decimal.twoPlaces s.rate),
    ("avg_ms", fun s => Decimal.twoPlaces s.average),
    ("p50_ms", fun s => Decimal.twoPlaces s.p50),
    ("p95_ms", fun s => Decimal.twoPlaces s.p95),
    ("p99_ms", fun s => Decimal.twoPlaces s.p99),
    ("min_ms", fun s => Decimal.twoPlaces s.least),
    ("max_ms", fun s => Decimal.twoPlaces s.greatest)]

def cell (text : Statistics → String) (s : Option Statistics) : String := (s.map text).getD "-"

def rowText (s : RunSummary) (row : String × (Statistics → String)) : String :=
  row.1 ++ "," ++ cell row.2 s.search ++ "," ++ cell row.2 s.insert ++ "\n"

def table (s : RunSummary) : String :=
  "metric,search,insert\n" ++ String.join (rows.map s.rowText)

def json (s : RunSummary) : Json := .object [
  ("duration_s", .number s.duration),
  ("mode", Choice.json s.mode),
  ("collection", .text s.collection),
  ("dimensions", .nat s.dimensions),
  ("distance_metric", .text s.distance),
  ("quantization", Choice.json s.quantization),
  ("prefill", .nat s.prefill),
  ("concurrency", .nat s.concurrency),
  ("search_k", .nat s.searchK),
  ("include_metadata", .bool s.includeMetadata),
  ("filter_type", Json.optional Choice.json s.filterType),
  ("search", Statistics.json s.search),
  ("insert", Statistics.json s.insert),
  ("errors", .object [("search", .nat s.errors.search), ("insert", .nat s.errors.insert)])]

def pretty (s : RunSummary) : String := s.json.pretty

open Document in
def countsOfDocument? (dialect : Dialect) (d : Document) : Option Counts := do
  let fields ← d.fields? dialect ["search", "insert"]
  return ⟨← fields.required "search" word?, ← fields.required "insert" word?⟩

open Document in
def ofDocument? (dialect : Dialect) (d : Document) : Option RunSummary := do
  let fields ← d.fields? dialect
    ["duration_s", "mode", "collection", "dimensions", "distance_metric", "quantization",
      "prefill", "concurrency", "search_k", "include_metadata", "filter_type", "search", "insert",
      "errors"]
  return {
    duration := ← fields.required "duration_s" float?
    mode := ← fields.required "mode" (Choice.ofDocument? dialect)
    collection := ← fields.required "collection" text?
    dimensions := ← fields.required "dimensions" word?
    distance := ← fields.required "distance_metric" text?
    quantization := ← fields.required "quantization" (Choice.ofDocument? dialect)
    prefill := ← fields.required "prefill" word?
    concurrency := ← fields.required "concurrency" word?
    searchK := ← fields.required "search_k" word?
    includeMetadata := ← fields.required "include_metadata" bool?
    filterType := ← fields.nullable "filter_type" (Choice.ofDocument? dialect)
    search := ← fields.required "search" (Statistics.embedded? dialect)
    insert := ← fields.required "insert" (Statistics.embedded? dialect)
    errors := ← fields.required "errors" (countsOfDocument? dialect) }

def ofJson? (text : String) : Option RunSummary :=
  Json.Reader.document? text >>= ofDocument? Json.dialect

def write (s : RunSummary) (files : Files) (path : String) : Except IoFault Files := do
  (← files.createParent path).write path (Utf8.encode (s.pretty ++ "\n"))

end RunSummary

end LoadBench
