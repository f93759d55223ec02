import LoadBench.Proofs.Run.Requests
import LoadBench.Proofs.Text.Numeral
import Mathlib.Data.List.Infix
import Mathlib.Data.List.Nodup

namespace LoadBench

open Http Text

theorem Prefill.vectorId_injective : Function.Injective vectorId := by
  intro i j same
  have letters := congrArg String.toList same
  simp only [vectorId, Numeral.toString, String.toList_append, String.toList_ofList,
    List.append_right_inj] at letters
  exact Numeral.digits_injective letters

theorem toList_insertId (worker suffix : Nat) :
    (insertId worker suffix).toList =
      "insert_".toList ++ (Numeral.digits worker ++ '_' :: Numeral.digits suffix) := by
  simp [insertId, Numeral.toString]

theorem insertId_injective {v w a b : Nat} (same : insertId v a = insertId w b) :
    v = w ∧ a = b := by
  have letters := congrArg String.toList same
  -- The worker's number ends at the underscore behind it, as no digit is one.
  have plain : ∀ n, '_' ∉ Numeral.digits n := Numeral.not_mem_digits rfl
  rw [toList_insertId, toList_insertId, List.append_right_inj,
    List.append_cons_inj_of_notMem (plain v) (plain a)] at letters
  exact ⟨Numeral.digits_injective letters.1, Numeral.digits_injective letters.2.2⟩

theorem vectorId_ne_insertId (place worker suffix : Nat) :
    Prefill.vectorId place ≠ insertId worker suffix := by
  intro same
  have letters := congrArg String.toList same
  rw [toList_insertId, Prefill.vectorId, String.toList_append] at letters
  cases letters

def Json.id? (json : Json) : Option String :=
  match json.get? "id" with
  | some (.text id) => some id
  | _ => none

/-- The ids of the vectors in a request: of the one that is its body, and of those its body lists. -/
def Http.Request.ids (r : Request) : List String :=
  (r.body.toList ++ Prefill.vectorsOf r).filterMap Json.id?

theorem Http.Request.ids_post {url : String} {body : Json} {timeout : Duration}
    (unnamed : body.get? "id" = none) (unlisted : body.get? "vectors" = none) :
    (post url body timeout).ids = [] := by
  have alone : Prefill.vectorsOf (post url body timeout) = [] := by
    simp only [Prefill.vectorsOf, post, Option.bind_some, unlisted]
  have own : body.id? = none := by rw [Json.id?, unnamed]
  rw [ids, alone, List.append_nil]
  exact List.filterMap_cons_none own

theorem RunConfig.ids_createRequest (c : RunConfig) : c.createRequest.ids = [] := by
  apply Request.ids_post
  all_goals
    by_cases plain : c.quantization = .none <;>
      simp [createBody, plain, Json.get?, List.lookup_cons]

theorem Prefill.ids_request (c : RunConfig) (batch : List StoredVector) :
    (request c batch).ids = batch.map (·.id) := by
  have body : (request c batch).body.toList = [batchBody batch] := rfl
  have unnamed : (batchBody batch).id? = none := rfl
  rw [Request.ids, vectorsOf_request, body, List.singleton_append,
    List.filterMap_cons_none unnamed, List.filterMap_map]
  exact congrFun (List.filterMap_eq_map (f := StoredVector.id)) batch

theorem RunConfig.ids_setupRequests (c : RunConfig) :
    c.setupRequests.flatMap (·.ids) = (List.range c.prefill).map Prefill.vectorId := by
  have batches : (Prefill.allBatches c).flatMap (fun batch => (Prefill.request c batch).ids) =
      (List.range c.prefill).map Prefill.vectorId := by
    simp only [Prefill.ids_request]
    rw [← List.map_flatMap, List.flatMap_id', Prefill.flatten_allBatches, Prefill.intended,
      List.map_map]
    rfl
  have drop : c.dropRequest.ids = [] := rfl
  simp only [setupRequests, setupCalls, List.map_cons, SetupCall.request, List.flatMap_cons, drop,
    ids_createRequest, List.nil_append, List.map_map, List.flatMap_map]
  exact batches

def Draw.suffix? : Draw → Option Nat
  | search _ => none
  | insert suffix _ _ => some suffix

theorem Draw.ids_request (c : RunConfig) (worker : Nat) (draw : Draw) :
    (draw.request c worker).ids = (draw.suffix?.map (insertId worker)).toList := by
  cases draw with
  | search xs =>
    apply Request.ids_post
    all_goals
      cases full : c.includeMetadata <;> cases filtered : c.useFilter <;>
        simp [searchBody, RunConfig.activeFilter, full, filtered, Json.get?, List.lookup_cons]
  | insert suffix xs metadata => rfl

/-- Draws of two workers that are inserts of one worker with one suffix. -/
structure SameInsert (v w : Nat) (d e : Draw) : Prop where
  worker : v = w
  suffix : ∃ suffix, d.suffix? = some suffix ∧ e.suffix? = some suffix

namespace Draw

variable {c : RunConfig} {v w : Nat} {d e : Draw}

theorem exists_suffix {id : String} (member : id ∈ (d.request c v).ids) :
    ∃ suffix, d.suffix? = some suffix ∧ id = insertId v suffix := by
  rw [ids_request, Option.mem_toList] at member
  obtain ⟨suffix, drawn, same⟩ := Option.map_eq_some_iff.mp member
  exact ⟨suffix, drawn, same.symm⟩

theorem sameInsert {id : String} (one : id ∈ (d.request c v).ids)
    (other : id ∈ (e.request c w).ids) : SameInsert v w d e := by
  obtain ⟨a, first, rfl⟩ := exists_suffix one
  obtain ⟨b, second, same⟩ := exists_suffix other
  obtain ⟨rfl, rfl⟩ := insertId_injective same
  exact ⟨rfl, a, first, second⟩

theorem vectorId_not_mem_ids (place : Nat) : Prefill.vectorId place ∉ (d.request c v).ids := by
  intro member
  obtain ⟨suffix, _, same⟩ := exists_suffix member
  exact vectorId_ne_insertId place v suffix same

end Draw

/-- What a run has sent, in its setup and then by its workers, each call with the index of its
worker: no id stands for vectors of two sources. -/
structure DistinctIds (c : RunConfig) (ch : Channel) (setup : List Sent)
    (timed : List (Nat × Sent)) (later : Channel) : Prop where
  since : ch.Since (setup ++ timed.map (·.2)) later
  workers : (∀ s ∈ timed, s.1 < c.concurrency) ∧ ∀ i < c.concurrency, ∃ n,
    (timed.filter (·.1 = i)).map (·.2.request) =
      (Draw.draws c n (.forWorker c.seed i c.dimensions)).map (·.request c i)
  prefilled : setup.flatMap (·.request.ids) <+: (List.range c.prefill).map Prefill.vectorId
  inserted : ∀ s ∈ timed, ∀ d : Draw, s.2.request = d.request c s.1 →
    s.2.request.ids = (d.suffix?.map (insertId s.1)).toList
  nodup : (setup.flatMap (·.request.ids)).Nodup
  apart : ∀ s ∈ timed, (setup.flatMap (·.request.ids)).Disjoint s.2.request.ids
  others : ∀ s ∈ timed, ∀ t ∈ timed, s.1 ≠ t.1 → s.2.request.ids.Disjoint t.2.request.ids
  repeats : ∀ s ∈ timed, ∀ t ∈ timed, ∀ d e : Draw,
    s.2.request = d.request c s.1 → t.2.request = e.request c t.1 →
      ∀ id ∈ s.2.request.ids, id ∈ t.2.request.ids → SameInsert s.1 t.1 d e

theorem nodup_vectorIds (n : Nat) : ((List.range n).map Prefill.vectorId).Nodup :=
  List.Nodup.map Prefill.vectorId_injective List.nodup_range

theorem Course.distinctIds {c : RunConfig} {ch later : Channel}
    {result : Option (Except RunFault RunSummary)} (course : Course c ch result later) :
    ∃ setup timed, DistinctIds c ch setup timed later := by
  obtain ⟨setup, timed, since, front, known, shares⟩ := course.sends
  have prefilled := List.IsPrefix.flatMap front Request.ids
  rw [List.flatMap_map, c.ids_setupRequests] at prefilled
  have drawn (s : Nat × Sent) (member : s ∈ timed) :
      ∃ draw : Draw, s.2.request = draw.request c s.1 := by
    obtain ⟨_, draw, _, request⟩ := exists_draw known shares s member
    exact ⟨draw, request⟩
  exact ⟨setup, timed, {
    since
    workers := ⟨known, shares⟩
    prefilled
    inserted s _ d request := by rw [request, d.ids_request]
    nodup := prefilled.sublist.nodup (nodup_vectorIds c.prefill)
    apart s member id early late := by
      obtain ⟨place, _, rfl⟩ := List.mem_map.mp (prefilled.subset early)
      obtain ⟨draw, request⟩ := drawn s member
      rw [request] at late
      exact Draw.vectorId_not_mem_ids place late
    others s one t other differ id first second := by
      obtain ⟨d, request⟩ := drawn s one
      obtain ⟨e, answer⟩ := drawn t other
      rw [request] at first
      rw [answer] at second
      exact differ (Draw.sameInsert first second).worker
    repeats s _ t _ d e first second id one other := by
      rw [first] at one
      rw [second] at other
      exact Draw.sameInsert one other }⟩

/-- No id stands for vectors of two sources, whatever they draw: neither for any that workers may
come to send, nor for those that a run has sent, however far it gets. -/
theorem RunConfig.ids_distinct (c : RunConfig) :
    (∀ place v, ∀ d : Draw, Prefill.vectorId place ∉ (d.request c v).ids) ∧
    (∀ v w, ∀ d e : Draw, ∀ id ∈ (d.request c v).ids, id ∈ (e.request c w).ids →
      SameInsert v w d e) ∧
    ∀ ch result later, Course c ch result later →
      ∃ setup timed, DistinctIds c ch setup timed later :=
  ⟨fun place _ _ => Draw.vectorId_not_mem_ids place, fun _ _ _ _ _ => Draw.sameInsert,
    fun _ _ _ course => course.distinctIds⟩

theorem ids_distinct_inserts :
    ∃ summary later setup timed,
      benchmark (busyRun .insert) (.ofScript faultyService) = some (.ok summary, later) ∧
      summary.errors = ⟨2, 3⟩ ∧
      DistinctIds (busyRun .insert) (.ofScript faultyService) setup timed later := by
  obtain ⟨summary, later, ran, errors⟩ := benchmark_busyRun_insert
  obtain ⟨setup, timed, distinct⟩ :=
    (RunConfig.ids_distinct _).2.2 _ _ _ (benchmark_course ran)
  exact ⟨summary, later, setup, timed, ran, errors, distinct⟩

end LoadBench
