import LoadBench.Proofs.Run.FailFast
import LoadBench.Proofs.Run.Stream
import LoadBench.Proofs.Run.Worker
import Mathlib.Data.Rat.Floor

namespace LoadBench

open Http Text

namespace VectorSource

def skip (n : Nat) (source : VectorSource) : VectorSource := (fun s => s.vector.2)^[n] source

theorem skip_succ (n : Nat) (source : VectorSource) :
    source.skip (n + 1) = (source.skip n).vector.2 :=
  Function.iterate_succ_apply' _ n source

end VectorSource

namespace Prefill

/-- The vector for a place: its id and metadata are those of the place, and its components are what
the source has once all places before have been served. -/
def stored (c : RunConfig) (place : Nat) : StoredVector :=
  ⟨vectorId place, ((VectorSource.ofSeed c.seed c.dimensions).skip place).vector.1,
    Metadata.indexed place⟩

def intended (c : RunConfig) : List StoredVector := (List.range c.prefill).map (stored c)

theorem length_intended (c : RunConfig) : (intended c).length = c.prefill := by
  rw [intended, List.length_map, List.length_range]

theorem vectors_eq (c : RunConfig) (count first : Nat) :
    vectors count first ((VectorSource.ofSeed c.seed c.dimensions).skip first) =
      ((List.range' first count).map (stored c),
        (VectorSource.ofSeed c.seed c.dimensions).skip (first + count)) := by
  induction count generalizing first with
  | zero => rfl
  | succ count ih =>
    have rest := ih (first + 1)
    rw [VectorSource.skip_succ, Nat.add_right_comm, Nat.add_assoc] at rest
    rw [List.range'_succ, List.map_cons, stored, vectors]
    simp only [rest]

def size (c : RunConfig) : Nat := max c.batchSize 1

def batchAt (c : RunConfig) (first : Nat) : List StoredVector :=
  ((intended c).drop first).take (size c)

theorem length_batchAt (c : RunConfig) (first : Nat) :
    (batchAt c first).length = min (size c) (c.prefill - first) := by
  rw [batchAt, List.length_take, List.length_drop, length_intended]

theorem batchAt_eq (c : RunConfig) (first : Nat) :
    batchAt c first = (List.range' first (min (size c) (c.prefill - first))).map (stored c) := by
  have same : min (first + size c) c.prefill - first = min (size c) (c.prefill - first) := by omega
  rw [batchAt, intended, List.take_drop, ← List.map_take, ← List.map_drop, List.take_range,
    List.range_eq_range', List.drop_range', same]
  simp

theorem batches_eq (c : RunConfig) (remaining sent : Nat) :
    batches c remaining sent ((VectorSource.ofSeed c.seed c.dimensions).skip sent) =
      (List.range remaining).map fun k => batchAt c (sent + k * size c) := by
  induction remaining generalizing sent with
  | zero => rfl
  | succ remaining ih =>
    -- A batch that is not full ends the vectors, and those after it are empty wherever they start.
    have next (k : Nat) : batchAt c (sent + min (size c) (c.prefill - sent) + k * size c) =
        batchAt c (sent + (k + 1) * size c) := by
      rcases Nat.le_total (size c) (c.prefill - sent) with full | short
      · rw [Nat.min_eq_left full, Nat.succ_mul, Nat.add_right_comm, Nat.add_assoc]
      · have more : c.prefill ≤ sent + (k + 1) * size c := by
          rw [Nat.succ_mul]
          omega
        have beyond : c.prefill ≤ sent + min (size c) (c.prefill - sent) + k * size c := by omega
        simp [batchAt_eq, Nat.sub_eq_zero_of_le more, Nat.sub_eq_zero_of_le beyond]
    rw [batches, ← size, vectors_eq]
    simp only [← batchAt_eq, length_batchAt, ih, next]
    rw [List.range_succ_eq_map, List.map_cons, List.map_map, Nat.zero_mul, Nat.add_zero]
    rfl

theorem allBatches_eq (c : RunConfig) :
    allBatches c =
      (List.range (batchCount c.prefill c.batchSize)).map fun k => batchAt c (k * size c) := by
  have whole := batches_eq c (batchCount c.prefill c.batchSize) 0
  simp only [Nat.zero_add] at whole
  exact whole

theorem flatten_batches (c : RunConfig) (n : Nat) :
    ((List.range n).map fun k => batchAt c (k * size c)).flatten =
      (intended c).take (n * size c) := by
  induction n with
  | zero => simp
  | succ n ih =>
    rw [List.range_succ, List.map_append, List.flatten_append, ih, Nat.succ_mul, List.take_add]
    simp [batchAt]

theorem lt_batchCount (total batchSize k : Nat) :
    k < batchCount total batchSize ↔ k * max batchSize 1 < total := by
  have pos : 0 < max batchSize 1 := Nat.le_max_right batchSize 1
  rw [batchCount, ← Nat.succ_le_iff, Nat.le_div_iff_mul_le pos, Nat.succ_mul]
  omega

theorem flatten_allBatches (c : RunConfig) : (allBatches c).flatten = intended c := by
  have enough : ¬batchCount c.prefill c.batchSize * size c < c.prefill :=
    (lt_batchCount c.prefill c.batchSize _).not.mp (Nat.lt_irrefl _)
  rw [allBatches_eq, flatten_batches, List.take_of_length_le]
  rw [length_intended]
  exact Nat.not_lt.mp enough

def requests (c : RunConfig) : List Request := (allBatches c).map (request c)

def vectorsOf (r : Request) : List Json :=
  match r.body.bind (Json.get? "vectors") with
  | some (.list items) => items
  | _ => []

theorem vectorsOf_request (c : RunConfig) (batch : List StoredVector) :
    vectorsOf (request c batch) = batch.map StoredVector.json := rfl

def outcome (c : RunConfig) (ch : Channel) (k : Nat) : Outcome :=
  (ch.script .batch (ch.served.batch + k)).outcome c.batchUrl

/-- A prefill that ends with a result and leaves its progress somewhere, having sent some requests
and nothing else. -/
structure Ends (c : RunConfig) (ch : Channel) (result : Except RunFault Totals)
    (progress : Progress) (sent : List Request) : Prop where
  eq : prefill c ch = (result, progress, ch.callAll sent)
  requests : (prefill c ch).2.2.requests = ch.requests ++ sent

end Prefill

end LoadBench
