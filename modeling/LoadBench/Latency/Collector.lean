import LoadBench.Http.Exchange
import LoadBench.Run.Workload

namespace LoadBench

open Http

structure Counts where
  search : Nat
  insert : Nat
deriving DecidableEq

namespace Counts

def zero : Counts := ⟨0, 0⟩

def get (c : Counts) : OperationKind → Nat
  | .search => c.search
  | .insert => c.insert

def add (c : Counts) : OperationKind → Counts
  | .search => { c with search := c.search + 1 }
  | .insert => { c with insert := c.insert + 1 }

end Counts

structure Collector where
  searchSamples : Array Binary64
  insertSamples : Array Binary64
  errors : Counts

namespace Collector

def empty : Collector := ⟨#[], #[], Counts.zero⟩

def samples (c : Collector) : OperationKind → Array Binary64
  | .search => c.searchSamples
  | .insert => c.insertSamples

def success (kind : OperationKind) (seconds : Binary64) (c : Collector) : Collector :=
  match kind with
  | .search => { c with searchSamples := c.searchSamples.push seconds }
  | .insert => { c with insertSamples := c.insertSamples.push seconds }

def failure (kind : OperationKind) (c : Collector) : Collector :=
  { c with errors := c.errors.add kind }

/-- Records what came of a call. A call without a response counts against searches, whatever its
kind. -/
def record (kind : OperationKind) (outcome : Outcome) (elapsed : Duration) (c : Collector) :
    Collector :=
  match outcome with
  | .ok response =>
    if response.isError then c.failure kind else c.success kind elapsed.seconds
  | .error _ => c.failure .search

end Collector

end LoadBench
