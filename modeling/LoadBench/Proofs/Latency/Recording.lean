import LoadBench.Proofs.Interleaving
import LoadBench.Proofs.Latency.Statistics

namespace LoadBench

open Http

inductive Recording where
  | success (kind : OperationKind) (seconds : Binary64)
  | failure (kind : OperationKind)

namespace Recording

def apply : Recording → Collector → Collector
  | success kind seconds, c => c.success kind seconds
  | failure kind, c => c.failure kind

def sample? (kind : OperationKind) : Recording → Option Binary64
  | success k seconds => if k = kind then some seconds else none
  | failure _ => none

def failed (kind : OperationKind) : Recording → Bool
  | success _ _ => false
  | failure k => k = kind

end Recording

namespace Collector

def recordAll (recordings : List Recording) (c : Collector) : Collector :=
  recordings.foldl (fun c recording => recording.apply c) c

theorem recordAll_append (c : Collector) (xs ys : List Recording) :
    (c.recordAll xs).recordAll ys = c.recordAll (xs ++ ys) :=
  List.foldl_append.symm

theorem samples_apply (c : Collector) (recording : Recording) (kind : OperationKind) :
    ((recording.apply c).samples kind).toList =
      (c.samples kind).toList ++ (recording.sample? kind).toList := by
  cases recording with
  | success k seconds =>
    cases k <;> cases kind <;> simp [Recording.apply, success, samples, Recording.sample?]
  | failure k => simp [Recording.apply, failure, samples, Recording.sample?]

theorem errors_apply (c : Collector) (recording : Recording) (kind : OperationKind) :
    (recording.apply c).errors.get kind =
      c.errors.get kind + if recording.failed kind then 1 else 0 := by
  cases recording with
  | success k seconds => cases k <;> simp [Recording.apply, success, Recording.failed]
  | failure k =>
    cases k <;> cases kind <;>
      simp [Recording.apply, failure, Counts.add, Counts.get, Recording.failed]

theorem samples_recordAll (recordings : List Recording) (c : Collector) (kind : OperationKind) :
    ((c.recordAll recordings).samples kind).toList =
      (c.samples kind).toList ++ recordings.filterMap (·.sample? kind) := by
  induction recordings generalizing c with
  | nil => simp [recordAll]
  | cons recording rest ih =>
    have step : c.recordAll (recording :: rest) = (recording.apply c).recordAll rest := rfl
    rw [step, ih, samples_apply, List.append_assoc]
    congr 1
    cases h : recording.sample? kind <;> simp [h]

theorem errors_recordAll (recordings : List Recording) (c : Collector) (kind : OperationKind) :
    (c.recordAll recordings).errors.get kind =
      c.errors.get kind + recordings.countP (·.failed kind) := by
  induction recordings generalizing c with
  | nil => simp [recordAll]
  | cons recording rest ih =>
    have step : c.recordAll (recording :: rest) = (recording.apply c).recordAll rest := rfl
    rw [step, ih, errors_apply, List.countP_cons]
    omega

theorem samples_empty_recordAll (recordings : List Recording) (kind : OperationKind) :
    ((empty.recordAll recordings).samples kind).toList = recordings.filterMap (·.sample? kind) := by
  rw [samples_recordAll]
  cases kind <;> rfl

theorem errors_empty_recordAll (recordings : List Recording) (kind : OperationKind) :
    (empty.recordAll recordings).errors.get kind = recordings.countP (·.failed kind) := by
  rw [errors_recordAll]
  cases kind <;> exact Nat.zero_add _

/-- What a collector holds that has gathered all recordings of some workers. -/
structure Gathers (workers : List (List Recording)) (c : Collector) : Prop where
  errors : ∀ kind, c.errors.get kind = workers.flatten.countP (·.failed kind)
  samples : ∀ kind,
    (c.samples kind).toList.Perm (workers.map (List.filterMap (·.sample? kind))).flatten
  order : ∀ kind,
    Interleaving (workers.map (List.filterMap (·.sample? kind))) (c.samples kind).toList

theorem gathers_recordAll {workers : List (List Recording)} {recordings : List Recording}
    (h : Interleaving workers recordings) : Gathers workers (empty.recordAll recordings) where
  errors kind := by rw [errors_empty_recordAll, h.countP_eq]
  samples kind := by
    rw [samples_empty_recordAll]
    exact (h.filterMap _).perm
  order kind := by
    rw [samples_empty_recordAll]
    exact h.filterMap _

theorem Gathers.errors_eq {workers : List (List Recording)} {a b : Collector}
    (ha : Gathers workers a) (hb : Gathers workers b) : a.errors = b.errors := by
  have search : a.errors.search = b.errors.search :=
    (ha.errors .search).trans (hb.errors .search).symm
  have insert : a.errors.insert = b.errors.insert :=
    (ha.errors .insert).trans (hb.errors .insert).symm
  calc
    a.errors = ⟨a.errors.search, a.errors.insert⟩ := rfl
    _ = b.errors := by rw [search, insert]

theorem Gathers.summarize_eq {workers : List (List Recording)} {a b : Collector}
    (ha : Gathers workers a) (hb : Gathers workers b) (kind : OperationKind) (wall : Duration) :
    a.summarize kind wall = b.summarize kind wall :=
  Statistics.ofLatencies?_perm ((ha.samples kind).trans (hb.samples kind).symm) wall

/-- Two orders in which the recordings of the same workers may come leave the same errors, samples
that are permutations of each other, and so the same statistics to the last bit. -/
theorem recordAll_interleavings {workers : List (List Recording)} {first second : List Recording}
    (hf : Interleaving workers first) (hs : Interleaving workers second) :
    Gathers workers (empty.recordAll first) ∧ Gathers workers (empty.recordAll second) ∧
      (empty.recordAll first).errors = (empty.recordAll second).errors ∧
      ∀ kind wall, (empty.recordAll first).summarize kind wall =
        (empty.recordAll second).summarize kind wall := by
  have a := gathers_recordAll hf
  have b := gathers_recordAll hs
  exact ⟨a, b, a.errors_eq b, fun kind wall => a.summarize_eq b kind wall⟩

theorem recordAll_nan_and_zero :
    (empty.recordAll
      [.success .search .nan, .failure .insert, .success .search .negativeZero]).errors =
    (empty.recordAll
      [.success .search .negativeZero, .success .search .nan, .failure .insert]).errors ∧
    ∀ kind wall,
      (empty.recordAll
        [.success .search .nan, .failure .insert, .success .search .negativeZero]).summarize
          kind wall =
      (empty.recordAll
        [.success .search .negativeZero, .success .search .nan, .failure .insert]).summarize
          kind wall := by
  let zero : Recording := .success .search .negativeZero
  let nan : Recording := .success .search .nan
  let fail : Recording := .failure .insert
  have stop : Interleaving ([[], []] : List (List Recording)) [] := .done (by simp)
  have zeroLast : Interleaving [[], [zero]] [zero] := @Interleaving.next _ [[]] [] zero [] _ stop
  have failFirst : Interleaving [[fail], [zero]] [fail, zero] :=
    @Interleaving.next _ [] [[zero]] fail [] _ zeroLast
  have after : Interleaving [[nan, fail], [zero]] [nan, fail, zero] :=
    @Interleaving.next _ [] [[zero]] nan [fail] _ failFirst
  have failLast : Interleaving [[fail], []] [fail] := @Interleaving.next _ [] [[]] fail [] _ stop
  have nanFirst : Interleaving [[nan, fail], []] [nan, fail] :=
    @Interleaving.next _ [] [[]] nan [fail] _ failLast
  have before : Interleaving [[nan, fail], [zero]] [zero, nan, fail] :=
    @Interleaving.next _ [[nan, fail]] [] zero [] _ nanFirst
  obtain ⟨_, _, errors, statistics⟩ := recordAll_interleavings after before
  exact ⟨errors, statistics⟩

end Collector

end LoadBench
