import LoadBench.Document
import LoadBench.Duration
import LoadBench.Latency.Collector

namespace LoadBench

structure Statistics where
  count : Nat
  average : Binary64
  p50 : Binary64
  p95 : Binary64
  p99 : Binary64
  least : Binary64
  greatest : Binary64
  rate : Binary64
deriving DecidableEq

/-- The place of a percentile among `n + 1` values in ascending order. -/
def percentileIndex (p : Binary64) (n : Nat) : Nat :=
  min ((p.div (Binary64.ofNat 100)).mul (Binary64.ofNat n)).toWord n

def percentile? (sorted : List Binary64) (p : Binary64) : Option Binary64 :=
  sorted[percentileIndex p (sorted.length - 1)]?

namespace Statistics

def sortedMillis (seconds : List Binary64) : List Binary64 :=
  (seconds.map (·.mul (Binary64.ofNat 1000))).mergeSort Binary64.totalLE

def ratePerSecond (count : Nat) (wall : Duration) : Binary64 :=
  if Binary64.zero.lt wall.seconds then (Binary64.ofNat count).div wall.seconds else Binary64.zero

/-- The statistics of latencies in seconds; `none` where there are none. The average adds the
latencies in ascending order, so it does not depend on the order in which they came. -/
def ofLatencies? (seconds : List Binary64) (wall : Duration) : Option Statistics := do
  let sorted := sortedMillis seconds
  return {
    count := sorted.length
    average := (Binary64.sum sorted).div (Binary64.ofNat sorted.length)
    p50 := ← percentile? sorted (Binary64.ofNat 50)
    p95 := ← percentile? sorted (Binary64.ofNat 95)
    p99 := ← percentile? sorted (Binary64.ofNat 99)
    least := ← sorted.head?
    greatest := ← sorted.getLast?
    rate := ratePerSecond sorted.length wall }

def entries (s : Statistics) : List (String × Json) :=
  [("count", .nat s.count), ("avg_ms", .number s.average), ("p50_ms", .number s.p50),
    ("p95_ms", .number s.p95), ("p99_ms", .number s.p99), ("min_ms", .number s.least),
    ("max_ms", .number s.greatest), ("qps", .number s.rate)]

def json (s : Option Statistics) : Json := .object ((s.map entries).getD [])

open Document in
def ofDocument? (dialect : Dialect) (d : Document) : Option Statistics := do
  let fields ← d.fields? dialect
    ["count", "avg_ms", "p50_ms", "p95_ms", "p99_ms", "min_ms", "max_ms", "qps"]
  return {
    count := ← fields.required "count" word?
    average := ← fields.required "avg_ms" float?
    p50 := ← fields.required "p50_ms" float?
    p95 := ← fields.required "p95_ms" float?
    p99 := ← fields.required "p99_ms" float?
    least := ← fields.required "min_ms" float?
    greatest := ← fields.required "max_ms" float?
    rate := ← fields.required "qps" float? }

/-- The statistics that a record holds in full, if it does; any other record without malformed parts
holds none. -/
def embedded? (dialect : Document.Dialect) (d : Document) : Option (Option Statistics) :=
  match d with
  | .record _ => d.json?.map fun _ => ofDocument? dialect d
  | _ => none

def countOf (s : Option Statistics) : Nat := (s.map (·.count)).getD 0

end Statistics

def Collector.summarize (c : Collector) (kind : OperationKind) (wall : Duration) :
    Option Statistics :=
  Statistics.ofLatencies? (c.samples kind).toList wall

end LoadBench
