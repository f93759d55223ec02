import LoadBench.Config.Run
import LoadBench.Run.Vectors

namespace LoadBench

open Text

inductive OperationKind where
  | search
  | insert
deriving DecidableEq

instance : Choice OperationKind where
  noun := "operation kind"
  all := [.search, .insert]
  name
    | .search => "search"
    | .insert => "insert"

namespace OperationKind

/-- The operation for a draw from [0, 1). In mixed mode draws beyond both shares are searches. -/
def select (mode : Mode) (searchRatio insertRatio draw : Binary64) : OperationKind :=
  match mode with
  | .search => .search
  | .insert => .insert
  | .mixed =>
    if draw.lt searchRatio then .search
    else if draw.lt (searchRatio.add insertRatio) then .insert
    else .search

def next (c : RunConfig) (source : VectorSource) : OperationKind × VectorSource :=
  match c.mode with
  | .search => (.search, source)
  | .insert => (.insert, source)
  | .mixed =>
    let (draw, source) := source.unit
    (select .mixed c.searchRatio c.insertRatio draw, source)

end OperationKind

def FilterType.payload : FilterType → Json
  | .exact => .object [("Exact", .list [.text "tag", .text "even"])]
  | .oneOf => .object [("OneOf", .list [.text "tag", .list [.text "even", .text "odd"]])]
  | .range => .object [("Range", .object
      [("field", .text "score"), ("gt", .number (Binary64.ofNat 500))])]

def vectorJson (xs : List Binary64) : Json := .list (xs.map .number)

def searchBody (c : RunConfig) (vector : List Binary64) : Json :=
  .object ([("vector", vectorJson vector), ("k", .nat c.searchK)] ++
    (if c.includeMetadata then [] else [("include_metadata", .bool false)]) ++
    (match c.activeFilter with
      | some filter => [("filter", filter.payload)]
      | none => []))

def searchPayload (c : RunConfig) (source : VectorSource) : Json × VectorSource :=
  let (vector, source) := source.vector
  (searchBody c vector, source)

structure StoredVector where
  id : String
  vector : List Binary64
  metadata : Metadata
deriving DecidableEq

def StoredVector.json (v : StoredVector) : Json :=
  .object [("id", .text v.id), ("metadata", v.metadata.json), ("vector", vectorJson v.vector)]

def insertId (worker suffix : Nat) : String :=
  "insert_" ++ Numeral.toString worker ++ "_" ++ Numeral.toString suffix

def drawInsert (worker : Nat) (source : VectorSource) : StoredVector × VectorSource :=
  let (suffix, source) := source.insertSuffix
  let (vector, source) := source.vector
  let (metadata, source) := Metadata.random source
  (⟨insertId worker suffix, vector, metadata⟩, source)

def insertPayload (worker : Nat) (source : VectorSource) : Json × VectorSource :=
  let (v, source) := drawInsert worker source
  (v.json, source)

end LoadBench
