import LoadBench.Proofs.Service
import LoadBench.Run.Worker
import Mathlib.Logic.Function.Iterate

namespace LoadBench

open Http

namespace VectorSource

def vectors : Nat → VectorSource → List (List Binary64)
  | 0, _ => []
  | n + 1, source => source.vector.1 :: vectors n source.vector.2

theorem ofSeed_mod (seed dimensions : Nat) :
    ofSeed (seed % 2 ^ 64) dimensions = ofSeed seed dimensions := by
  have same : UInt64.ofNat (seed % 2 ^ 64) = UInt64.ofNat seed := by
    apply UInt64.toNat_inj.mp
    simp only [UInt64.toNat_ofNat', Nat.mod_mod]
  simp only [ofSeed, Random.Generator.ofSeed, same]

end VectorSource

theorem searchPayload_eq (c : RunConfig) (source : VectorSource) :
    searchPayload c source = (searchBody c source.vector.1, source.vector.2) := by
  rcases drawn : source.vector with ⟨vector, rest⟩
  simp only [searchPayload, drawn]

theorem drawInsert_eq (worker : Nat) (source : VectorSource) :
    drawInsert worker source =
      let suffix := source.insertSuffix
      let vector := suffix.2.vector
      let metadata := Metadata.random vector.2
      (⟨insertId worker suffix.1, vector.1, metadata.1⟩, metadata.2) := by
  rcases suffixed : source.insertSuffix with ⟨suffix, s⟩
  rcases drawn : s.vector with ⟨vector, t⟩
  rcases made : Metadata.random t with ⟨metadata, u⟩
  simp only [drawInsert, suffixed, drawn, made]

theorem insertPayload_eq (worker : Nat) (source : VectorSource) :
    insertPayload worker source =
      ((drawInsert worker source).1.json, (drawInsert worker source).2) := by
  rcases drawn : drawInsert worker source with ⟨v, rest⟩
  simp only [insertPayload, drawn]

inductive Draw where
  | search (vector : List Binary64)
  | insert (suffix : Nat) (vector : List Binary64) (metadata : Metadata)

namespace Draw

def request (c : RunConfig) (index : Nat) : Draw → Request
  | search vector => .post c.searchUrl (searchBody c vector) c.requestTimeout
  | insert suffix vector metadata =>
    .post c.insertUrl (StoredVector.json ⟨insertId index suffix, vector, metadata⟩) c.requestTimeout

def next (c : RunConfig) (source : VectorSource) : Draw × VectorSource :=
  let chosen := OperationKind.next c source
  match chosen.1 with
  | .search => (.search chosen.2.vector.1, chosen.2.vector.2)
  | .insert =>
    let suffix := chosen.2.insertSuffix
    let vector := suffix.2.vector
    let metadata := Metadata.random vector.2
    (.insert suffix.1 vector.1 metadata.1, metadata.2)

def draws (c : RunConfig) : Nat → VectorSource → List Draw
  | 0, _ => []
  | n + 1, source => (next c source).1 :: draws c n (next c source).2

theorem draws_congr {c d : RunConfig} (same : ∀ source, next d source = next c source) (n : Nat)
    (source : VectorSource) : draws d n source = draws c n source := by
  induction n generalizing source with
  | zero => rfl
  | succ n ih => simp only [draws, same, ih]

theorem next_search {c : RunConfig} (mode : c.mode = .search) (source : VectorSource) :
    next c source = (.search source.vector.1, source.vector.2) := by
  simp only [next, OperationKind.next, mode]

theorem draws_search {c : RunConfig} (mode : c.mode = .search) (n : Nat) (source : VectorSource) :
    draws c n source = (source.vectors n).map search := by
  induction n generalizing source with
  | zero => rfl
  | succ n ih => simp only [draws, next_search mode, VectorSource.vectors, List.map_cons, ih]

end Draw

namespace Worker

def after (n : Nat) (w : Worker) : Worker := (fun w => w.next.2)^[n] w

def requests : Nat → Worker → List Request
  | 0, _ => []
  | n + 1, w => w.next.1.request :: requests n w.next.2

theorem length_requests (n : Nat) (w : Worker) : (w.requests n).length = n := by
  induction n generalizing w with
  | zero => rfl
  | succ n ih => simp only [requests, List.length_cons, ih]

theorem after_succ (n : Nat) (w : Worker) : w.after (n + 1) = (w.after n).next.2 :=
  Function.iterate_succ_apply' ..

theorem requests_succ (n : Nat) (w : Worker) :
    w.requests (n + 1) = w.requests n ++ [(w.after n).next.1.request] := by
  induction n generalizing w with
  | zero => rfl
  | succ n ih =>
    have step : w.requests (n + 1 + 1) = w.next.1.request :: w.next.2.requests (n + 1) := rfl
    rw [step, ih]
    rfl

theorem requests_grow (w : Worker) {m n : Nat} (h : m ≤ n) : w.requests m <+: w.requests n := by
  induction h with
  | refl => exact List.prefix_refl _
  | step _ ih => exact ih.trans (requests_succ _ w ▸ List.prefix_append _ _)

theorem next_draw (w : Worker) :
    w.next.1.request = (Draw.next w.config w.source).1.request w.config w.index ∧
      w.next.2 = { w with source := (Draw.next w.config w.source).2 } := by
  simp only [next, payload, Draw.next]
  cases (OperationKind.next w.config w.source).1 with
  | search =>
    rw [searchPayload_eq]
    exact ⟨rfl, rfl⟩
  | insert =>
    rw [insertPayload_eq, drawInsert_eq]
    exact ⟨rfl, rfl⟩

theorem requests_draws (n : Nat) (w : Worker) :
    w.requests n = (Draw.draws w.config n w.source).map (·.request w.config w.index) := by
  induction n generalizing w with
  | zero => rfl
  | succ n ih =>
    obtain ⟨request, rest⟩ := w.next_draw
    rw [requests, Draw.draws, List.map_cons, request, ih, rest]

theorem requests_start (c : RunConfig) (i n : Nat) :
    (start c i).requests n =
      (Draw.draws c n (.ofSeed ((c.seed + i) % 2 ^ 64) c.dimensions)).map (·.request c i) := by
  rw [requests_draws, VectorSource.ofSeed_mod]
  rfl

theorem requests_concurrency (c : RunConfig) (k i n : Nat) :
    (start { c with concurrency := k } i).requests n = (start c i).requests n := by
  have request : Draw.request { c with concurrency := k } i = Draw.request c i := by
    funext draw
    cases draw <;> rfl
  have draws : Draw.draws { c with concurrency := k } n = Draw.draws c n := by
    funext source
    refine Draw.draws_congr ?_ n source
    exact fun _ => rfl
  rw [requests_start, requests_start, request, draws]

theorem since_iterate (n : Nat) (s : Solo) :
    ∃ sent, s.channel.Since sent (Solo.step^[n] s).channel ∧
      sent.map (·.request) = s.worker.requests n ∧
      (Solo.step^[n] s).totals.calls = s.totals.calls + n := by
  -- Whatever a call is answered, the worker it leaves is the same.
  induction n generalizing s with
  | zero => exact ⟨[], .refl _, rfl, rfl⟩
  | succ n ih =>
    obtain ⟨sent, since, requests, calls⟩ := ih s.step
    have first : s.channel.Since [⟨s.channel.now, s.worker.next.1.request⟩] s.step.channel :=
      Channel.since_call _ _
    have counted : s.step.totals.calls = s.totals.calls + 1 := by
      simp only [Solo.step, Totals.add]
      split <;> rfl
    refine ⟨_, first.trans since, ?_, ?_⟩
    · rw [List.map_append, requests]
      rfl
    · rw [Function.iterate_succ_apply, calls, counted]
      omega

theorem run_eq_iterate (stopped : Nat → Bool) (fuel : Nat) (s : Solo) :
    ∃ n, Solo.run stopped fuel s = Solo.step^[n] s := by
  induction fuel generalizing s with
  | zero => exact ⟨0, rfl⟩
  | succ fuel ih =>
    rw [Solo.run]
    split
    · exact ⟨0, rfl⟩
    · obtain ⟨n, run⟩ := ih s.step
      exact ⟨n + 1, run⟩

theorem run_until {n fuel : Nat} (enough : n < fuel) (s : Solo) :
    Solo.run (s.totals.calls + n ≤ ·) fuel s = Solo.step^[n] s := by
  induction fuel generalizing n s with
  | zero => omega
  | succ fuel ih =>
    rw [Solo.run]
    cases n with
    | zero => simp
    | succ n =>
      obtain ⟨_, _, _, calls⟩ := since_iterate 1 s
      have rest := ih (n := n) (by omega) s.step
      have shift : s.totals.calls + (n + 1) = s.step.totals.calls + n := by
        have one : s.step.totals.calls = s.totals.calls + 1 := calls
        omega
      rw [if_neg (by simp), Function.iterate_succ_apply, shift, rest]

end Worker

end LoadBench
