import LoadBench.Http.Url
import LoadBench.Run.Fault
import LoadBench.Run.Workload
import LoadBench.Service

namespace LoadBench

open Http Text

namespace RunConfig

def url (c : RunConfig) (path : String) : String := Url.join c.baseUrl path

def collectionsUrl (c : RunConfig) : String := c.url "/collections"

def collectionUrl (c : RunConfig) : String := c.url ("/collections/" ++ c.collection)

def batchUrl (c : RunConfig) : String := c.url ("/collections/" ++ c.collection ++ "/vectors/batch")

def searchUrl (c : RunConfig) : String := c.url ("/collections/" ++ c.collection ++ "/search")

def insertUrl (c : RunConfig) : String := c.url ("/collections/" ++ c.collection ++ "/vectors")

def operationUrl (c : RunConfig) : OperationKind → String
  | .search => c.searchUrl
  | .insert => c.insertUrl

def createBody (c : RunConfig) : Json :=
  .object ([("name", .text c.collection), ("dimensions", .nat c.dimensions),
      ("distance_metric", .text c.distance)] ++
    (if c.quantization = .none then [] else [("quantization", Choice.json c.quantization)]))

def dropRequest (c : RunConfig) : Request := .delete c.collectionUrl c.requestTimeout

def createRequest (c : RunConfig) : Request := .post c.collectionsUrl c.createBody c.requestTimeout

end RunConfig

/-- Drops and creates the collection. What the drop is answered with does not matter, as long as
there is a response. -/
def recreate (c : RunConfig) (ch : Channel) : Except RunFault Unit × Channel :=
  match ch.call c.dropRequest with
  | (.error fault, ch) => (.error (.transport fault), ch)
  | (.ok _, ch) =>
    match ch.call c.createRequest with
    | (.error fault, ch) => (.error (.transport fault), ch)
    | (.ok response, ch) =>
      (if response.isError then .error (.ofCreate response) else .ok (), ch)

namespace Prefill

structure Progress where
  position : Nat
  finished : Bool
  message : String
deriving DecidableEq

structure Totals where
  batches : Nat
  vectors : Nat
deriving DecidableEq

def batchCount (total batchSize : Nat) : Nat :=
  let size := max batchSize 1
  (total + size - 1) / size

def vectorId (index : Nat) : String := "prefill_" ++ Numeral.toString index

def vectors : Nat → Nat → VectorSource → List StoredVector × VectorSource
  | 0, _, source => ([], source)
  | count + 1, index, source =>
    let (vector, source) := source.vector
    let (rest, source) := vectors count (index + 1) source
    (⟨vectorId index, vector, Metadata.indexed index⟩ :: rest, source)

def batchBody (batch : List StoredVector) : Json :=
  .object [("vectors", .list (batch.map StoredVector.json))]

/-- Cuts a prefill of `total` vectors into batches, given how many vectors came before. -/
def batches (c : RunConfig) : Nat → Nat → VectorSource → List (List StoredVector)
  | 0, _, _ => []
  | remaining + 1, sent, source =>
    let (batch, source) := vectors (min (max c.batchSize 1) (c.prefill - sent)) sent source
    batch :: batches c remaining (sent + batch.length) source

def allBatches (c : RunConfig) : List (List StoredVector) :=
  batches c (batchCount c.prefill c.batchSize) 0 (VectorSource.ofSeed c.seed c.dimensions)

def request (c : RunConfig) (batch : List StoredVector) : Request :=
  .post c.batchUrl (batchBody batch) c.requestTimeout

def sendAll (c : RunConfig) (done : Totals) :
    List (List StoredVector) → Channel → Except RunFault Totals × Progress × Channel
  | [], ch =>
    (.ok done,
      ⟨done.vectors, true, "prefilled " ++ Numeral.toString done.vectors ++ " vectors"⟩, ch)
  | batch :: rest, ch =>
    match ch.call (request c batch) with
    | (.error fault, ch) => (.error (.transport fault), ⟨done.vectors, false, ""⟩, ch)
    | (.ok response, ch) =>
      if response.isError then
        (.error (.ofPrefill response), ⟨done.vectors, true,
          "prefill failed at batch " ++ Numeral.toString (done.batches + 1)⟩, ch)
      else sendAll c ⟨done.batches + 1, done.vectors + batch.length⟩ rest ch

end Prefill

def prefill (c : RunConfig) (ch : Channel) :
    Except RunFault Prefill.Totals × Prefill.Progress × Channel :=
  if c.prefill = 0 then (.ok ⟨0, 0⟩, ⟨0, true, ""⟩, ch)
  else Prefill.sendAll c ⟨0, 0⟩ (Prefill.allBatches c) ch

end LoadBench
