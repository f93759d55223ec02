import LoadBench.Proofs.Run.Modes
import LoadBench.Proofs.Run.Prefill
import LoadBench.Proofs.Url

namespace LoadBench

open Http Text

namespace Json

/-- An object with some keys, each once, and with no other. -/
def HasKeys (keys : List String) (json : Json) : Prop :=
  ∃ entries, json = .object entries ∧ (entries.map (·.1)).Perm keys

def IsVector (dimensions : Nat) (json : Json) : Prop :=
  ∃ xs, json = .list (xs.map .float) ∧ InUnitCube dimensions xs

theorem number_of_isFinite {x : Binary64} (finite : x.isFinite = true) : number x = .float x := by
  rw [number, if_pos finite]

end Json

theorem vectorJson_isVector {dimensions : Nat} {xs : List Binary64}
    (cube : InUnitCube dimensions xs) : (vectorJson xs).IsVector dimensions := by
  refine ⟨xs, ?_, cube⟩
  rw [vectorJson, List.map_congr_left]
  intro x member
  obtain ⟨k, _, fraction⟩ := cube.components x member
  exact Json.number_of_isFinite fraction.finite

inductive IsFilter : FilterType → Json → Prop where
  | exact : IsFilter .exact (.object [("Exact", .list [.text "tag", .text "even"])])
  | oneOf : IsFilter .oneOf
      (.object [("OneOf", .list [.text "tag", .list [.text "even", .text "odd"]])])
  | range : IsFilter .range (.object [("Range", .object
      [("field", .text "score"), ("gt", .float (Binary64.ofNat 500))])])

theorem payload_isFilter (filter : FilterType) : IsFilter filter filter.payload := by
  cases filter with
  | exact => exact .exact
  | oneOf => exact .oneOf
  | range =>
    have finite : (Binary64.ofNat 500).isFinite = true := by decide +kernel
    rw [FilterType.payload, Json.number_of_isFinite finite]
    exact .range

structure IsSearch (c : RunConfig) (body : Json) : Prop where
  keys : body.HasKeys (["vector", "k"] ++
    (if c.includeMetadata then [] else ["include_metadata"]) ++
    (if c.useFilter then ["filter"] else []))
  vector : ∃ vector, body.get? "vector" = some vector ∧ vector.IsVector c.dimensions
  k : body.get? "k" = some (.int c.searchK)
  includeMetadata : c.includeMetadata = false →
    body.get? "include_metadata" = some (.bool false)
  filter : c.useFilter = true →
    ∃ filter, body.get? "filter" = some filter ∧ IsFilter c.filterType filter

theorem searchBody_isSearch {c : RunConfig} {xs : List Binary64}
    (cube : InUnitCube c.dimensions xs) : IsSearch c (searchBody c xs) where
  keys := by
    refine ⟨_, rfl, ?_⟩
    cases c.includeMetadata <;> cases filtered : c.useFilter <;>
      simp [RunConfig.activeFilter, filtered]
  vector := ⟨_, rfl, vectorJson_isVector cube⟩
  k := rfl
  includeMetadata without := by
    simp [searchBody, without, Json.get?, List.lookup_cons]
  filter filtered := by
    refine ⟨_, ?_, payload_isFilter c.filterType⟩
    cases h : c.includeMetadata <;>
      simp [searchBody, RunConfig.activeFilter, h, filtered, Json.get?, List.lookup_cons]

structure IsEntry (dimensions : Nat) (id tag : String) (score : Json) (entry : Json) : Prop where
  keys : entry.HasKeys ["id", "vector", "metadata"]
  id : entry.get? "id" = some (.text id)
  vector : ∃ vector, entry.get? "vector" = some vector ∧ vector.IsVector dimensions
  metadata : ∃ metadata, entry.get? "metadata" = some metadata ∧
    metadata.HasKeys ["tag", "score"] ∧ metadata.get? "tag" = some (.text tag) ∧
    metadata.get? "score" = some score

theorem StoredVector.json_isEntry {dimensions : Nat} {v : StoredVector}
    (cube : InUnitCube dimensions v.vector) :
    IsEntry dimensions v.id (if v.metadata.isEven then "even" else "odd")
      (.number v.metadata.score) v.json where
  keys := ⟨_, rfl, (List.Perm.swap "vector" "metadata" []).cons "id"⟩
  id := rfl
  vector := ⟨_, rfl, vectorJson_isVector cube⟩
  metadata := ⟨_, rfl, ⟨_, rfl, .swap "tag" "score" []⟩, rfl, rfl⟩

def IsInsert (c : RunConfig) (worker : Nat) (body : Json) : Prop :=
  ∃ suffix ≤ 1000000, ∃ tag ∈ ["even", "odd"], ∃ score, Metadata.IsScore score ∧
    IsEntry c.dimensions ("insert_" ++ Numeral.toString worker ++ "_" ++ Numeral.toString suffix)
      tag (.float score) body

structure IsBatch (c : RunConfig) (body : Json) : Prop where
  keys : body.HasKeys ["vectors"]
  entries : ∃ entries, body.get? "vectors" = some (.list entries) ∧
    ∀ entry ∈ entries, ∃ index < c.prefill,
      IsEntry c.dimensions ("prefill_" ++ Numeral.toString index)
        (if index % 2 = 0 then "even" else "odd") (.number (Binary64.ofNat index)) entry

structure IsCreate (c : RunConfig) (body : Json) : Prop where
  keys : body.HasKeys (["name", "dimensions", "distance_metric"] ++
    (if c.quantization = .none then [] else ["quantization"]))
  name : body.get? "name" = some (.text c.collection)
  dimensions : body.get? "dimensions" = some (.int c.dimensions)
  distance : body.get? "distance_metric" = some (.text c.distance)
  quantization : c.quantization ≠ .none →
    body.get? "quantization" = some (.text (Choice.name c.quantization))

theorem createBody_isCreate (c : RunConfig) : IsCreate c c.createBody where
  keys := by
    refine ⟨_, rfl, ?_⟩
    by_cases plain : c.quantization = .none <;> simp [plain]
  name := rfl
  dimensions := rfl
  distance := rfl
  quantization stored := by
    simp [RunConfig.createBody, stored, Json.get?, List.lookup_cons, Choice.json]

inductive Errand where
  | drop
  | create
  | batch
  | search
  | insert (worker : Nat)

namespace Errand

def method : Errand → Method
  | drop => .delete
  | create | batch | search | insert _ => .post

def path (c : RunConfig) : Errand → String
  | create => "/collections"
  | drop => "/collections/" ++ c.collection
  | batch => "/collections/" ++ c.collection ++ "/vectors/batch"
  | search => "/collections/" ++ c.collection ++ "/search"
  | insert _ => "/collections/" ++ c.collection ++ "/vectors"

inductive HasBody (c : RunConfig) : Errand → Option Json → Prop where
  | drop : HasBody c .drop none
  | create {body : Json} : IsCreate c body → HasBody c .create (some body)
  | batch {body : Json} : IsBatch c body → HasBody c .batch (some body)
  | search {body : Json} : IsSearch c body → HasBody c .search (some body)
  | insert {worker : Nat} {body : Json} : IsInsert c worker body →
      HasBody c (.insert worker) (some body)

/-- A request as its errand asks for it. -/
structure WellFormed (c : RunConfig) (errand : Errand) (r : Request) : Prop where
  method : r.method = errand.method
  url : ∃ root, Url.IsRoot root c.baseUrl ∧ r.url = root ++ errand.path c
  body : errand.HasBody c r.body
  timeout : r.timeout = Duration.ofSeconds c.requestTimeoutSecs

theorem url_path (c : RunConfig) (errand : Errand) :
    ∃ root, Url.IsRoot root c.baseUrl ∧ c.url (errand.path c) = root ++ errand.path c := by
  have starts : ∃ rest, (errand.path c).toList = '/' :: 'c' :: rest := by
    cases errand <;> simp only [path, String.toList_append] <;> exact ⟨_, rfl⟩
  obtain ⟨rest, starts⟩ := starts
  exact ⟨_, Url.root_isRoot c.baseUrl, Url.join_eq c.baseUrl starts (by decide)⟩

end Errand

namespace Draw

inductive Proper (dimensions : Nat) : Draw → Prop where
  | search {xs : List Binary64} : InUnitCube dimensions xs → Proper dimensions (.search xs)
  | insert {suffix : Nat} {xs : List Binary64} {metadata : Metadata} :
      suffix ≤ VectorSource.greatestSuffix → InUnitCube dimensions xs →
        Metadata.IsScore metadata.score → Proper dimensions (.insert suffix xs metadata)

theorem ofKind_proper (kind : OperationKind) (source : VectorSource) :
    Proper source.dimensions (ofKind kind source).1 ∧
      (ofKind kind source).2.dimensions = source.dimensions := by
  cases kind with
  | search => exact ⟨.search source.vector_inUnitCube, source.vector_dimensions⟩
  | insert =>
    have suffix := source.insertSuffix_le
    have cube := source.insertSuffix.2.vector_inUnitCube
    have score := Metadata.random_isScore source.insertSuffix.2.vector.2
    refine ⟨.insert suffix cube score, ?_⟩
    simp only [ofKind, Metadata.random_dimensions, VectorSource.vector_dimensions,
      VectorSource.insertSuffix_dimensions]

theorem next_proper (c : RunConfig) (source : VectorSource) :
    Proper source.dimensions (next c source).1 ∧
      (next c source).2.dimensions = source.dimensions := by
  have kept : (OperationKind.next c source).2.dimensions = source.dimensions := by
    rw [OperationKind.next]
    cases c.mode <;> rfl
  have drawn := ofKind_proper (OperationKind.next c source).1 (OperationKind.next c source).2
  rw [kept] at drawn
  rw [next_eq]
  exact drawn

theorem proper_of_mem_draws (c : RunConfig) (n : Nat) (source : VectorSource) :
    ∀ draw ∈ draws c n source, Proper source.dimensions draw := by
  induction n generalizing source with
  | zero => exact fun _ member => (List.not_mem_nil member).elim
  | succ n ih =>
    obtain ⟨first, kept⟩ := next_proper c source
    have others := ih (next c source).2
    rw [kept] at others
    exact List.forall_mem_cons.mpr ⟨first, others⟩

theorem request_wellFormed {c : RunConfig} (worker : Nat) {draw : Draw}
    (proper : Proper c.dimensions draw) :
    ∃ errand ∈ [Errand.search, .insert worker], errand.WellFormed c (draw.request c worker) := by
  cases proper with
  | search cube =>
    have url := Errand.url_path c .search
    exact ⟨.search, by simp, rfl, url, .search (searchBody_isSearch cube), rfl⟩
  | @insert suffix xs metadata bound cube score =>
    have url := Errand.url_path c (.insert worker)
    have tag : (if metadata.isEven then "even" else "odd") ∈ ["even", "odd"] := by
      cases metadata.isEven <;> simp
    have entry := StoredVector.json_isEntry (v := ⟨insertId worker suffix, xs, metadata⟩) cube
    rw [Json.number_of_isFinite score.isFinite] at entry
    exact ⟨.insert worker, by simp, rfl, url, .insert ⟨suffix, bound, _, tag, _, score, entry⟩, rfl⟩

end Draw

namespace Prefill

theorem skip_dimensions (n : Nat) (source : VectorSource) :
    (source.skip n).dimensions = source.dimensions := by
  induction n with
  | zero => rfl
  | succ n ih => rw [VectorSource.skip_succ, VectorSource.vector_dimensions, ih]

theorem stored_isEntry (c : RunConfig) (place : Nat) :
    IsEntry c.dimensions ("prefill_" ++ Numeral.toString place)
      (if place % 2 = 0 then "even" else "odd") (.number (Binary64.ofNat place))
      (stored c place).json := by
  have cube := ((VectorSource.ofSeed c.seed c.dimensions).skip place).vector_inUnitCube
  rw [skip_dimensions] at cube
  have entry := StoredVector.json_isEntry (v := stored c place) cube
  simp only [stored, Metadata.indexed, beq_iff_eq] at entry
  exact entry

theorem batchBody_isBatch {c : RunConfig} {batch : List StoredVector}
    (member : batch ∈ allBatches c) : IsBatch c (batchBody batch) where
  keys := ⟨_, rfl, .refl _⟩
  entries := by
    refine ⟨_, rfl, fun entry inside => ?_⟩
    obtain ⟨v, within, rfl⟩ := List.mem_map.mp inside
    have intended : v ∈ intended c := by
      rw [← flatten_allBatches]
      exact List.mem_flatten_of_mem member within
    obtain ⟨index, below, rfl⟩ := List.mem_map.mp intended
    exact ⟨index, List.mem_range.mp below, stored_isEntry c index⟩

end Prefill

theorem SetupCall.wellFormed {c : RunConfig} {call : SetupCall} (member : call ∈ c.setupCalls) :
    ∃ errand ∈ [Errand.drop, .create, .batch], errand.WellFormed c (call.request c) := by
  rcases List.mem_cons.mp member with rfl | member
  · exact ⟨.drop, by simp, rfl, Errand.url_path c .drop, .drop, rfl⟩
  rcases List.mem_cons.mp member with rfl | member
  · exact ⟨.create, by simp, rfl, Errand.url_path c .create, .create (createBody_isCreate c), rfl⟩
  · obtain ⟨batch, inside, rfl⟩ := List.mem_map.mp member
    have body := Prefill.batchBody_isBatch inside
    exact ⟨.batch, by simp, rfl, Errand.url_path c .batch, .batch body, rfl⟩

/-- What a run has sent, all of it well formed: the requests of its setup, then the calls of its
workers, each with the index of its worker. -/
structure WellFormedTraffic (c : RunConfig) (ch : Channel) (setup : List Sent)
    (timed : List (Nat × Sent)) (later : Channel) : Prop where
  since : ch.Since (setup ++ timed.map (·.2)) later
  setup : ∀ s ∈ setup, ∃ errand ∈ [Errand.drop, .create, .batch], errand.WellFormed c s.request
  timed : ∀ s ∈ timed, s.1 < c.concurrency ∧
    ∃ errand ∈ [Errand.search, .insert s.1], errand.WellFormed c s.2.request

theorem Course.traffic {c : RunConfig} {ch later : Channel}
    {result : Option (Except RunFault RunSummary)} (course : Course c ch result later) :
    ∃ setup timed, WellFormedTraffic c ch setup timed later := by
  obtain ⟨setup, timed, since, front, known, shares⟩ := course.sends
  refine ⟨setup, timed, since, fun s member => ?_, fun s member => ⟨known s member, ?_⟩⟩
  · have inside := front.subset (List.mem_map_of_mem (f := (·.request)) member)
    obtain ⟨call, own, same⟩ := List.mem_map.mp inside
    rw [← same]
    exact SetupCall.wellFormed own
  · obtain ⟨n, draw, drawn, request⟩ := exists_draw known shares s member
    rw [request]
    exact Draw.request_wellFormed s.1 (Draw.proper_of_mem_draws c n _ draw drawn)

/-- Every request of every worker is well formed, whatever it has drawn before, and so is all that a
run sends, in its setup and in its window, whatever the service answers and however far it gets. -/
theorem RunConfig.requests_wellFormed (c : RunConfig) :
    (∀ i n, ∀ r ∈ (Worker.start c i).requests n,
      ∃ errand ∈ [Errand.search, .insert i], errand.WellFormed c r) ∧
    ∀ ch result later, Course c ch result later →
      ∃ setup timed, WellFormedTraffic c ch setup timed later := by
  refine ⟨fun i n r member => ?_, fun _ _ _ course => course.traffic⟩
  rw [Worker.requests_start] at member
  obtain ⟨draw, drawn, rfl⟩ := List.mem_map.mp member
  exact Draw.request_wellFormed i (Draw.proper_of_mem_draws c n _ draw drawn)

theorem requests_wellFormed_filtered :
    ∃ summary later setup timed,
      benchmark (busyRun .mixed) (.ofScript faultyService) = some (.ok summary, later) ∧
      summary.errors = ⟨4, 1⟩ ∧
      WellFormedTraffic (busyRun .mixed) (.ofScript faultyService) setup timed later := by
  obtain ⟨summary, later, ran, errors⟩ := benchmark_busyRun_mixed
  obtain ⟨setup, timed, traffic⟩ :=
    (RunConfig.requests_wellFormed _).2 _ _ _ (benchmark_course ran)
  exact ⟨summary, later, setup, timed, ran, errors, traffic⟩

end LoadBench
