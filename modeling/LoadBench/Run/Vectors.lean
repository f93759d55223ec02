import LoadBench.Json.Basic
import LoadBench.Random.Generator

namespace LoadBench

structure VectorSource where
  generator : Random.Generator
  dimensions : Nat

namespace VectorSource

def ofSeed (seed dimensions : Nat) : VectorSource := ⟨Random.Generator.ofSeed seed, dimensions⟩

/-- The source of a worker: seeds are 64-bit words, and workers take successive ones. -/
def forWorker (seed index dimensions : Nat) : VectorSource := ofSeed (seed + index) dimensions

def vector (source : VectorSource) : List Binary64 × VectorSource :=
  let (xs, g) := source.generator.singles source.dimensions
  (xs, { source with generator := g })

def unit (source : VectorSource) : Binary64 × VectorSource :=
  let (x, g) := source.generator.unit
  (x, { source with generator := g })

def upTo (bound : Nat) (source : VectorSource) : Nat × VectorSource :=
  let (n, g) := source.generator.upTo bound
  (n, { source with generator := g })

def greatestSuffix : Nat := 1000000

def insertSuffix (source : VectorSource) : Nat × VectorSource := source.upTo greatestSuffix

end VectorSource

structure Metadata where
  isEven : Bool
  score : Binary64
deriving DecidableEq

namespace Metadata

def json (m : Metadata) : Json :=
  .object [("score", .number m.score), ("tag", .text (if m.isEven then "even" else "odd"))]

/-- The metadata of the vector at a place of the prefill. Search filters select on them. -/
def indexed (index : Nat) : Metadata := ⟨index % 2 == 0, Binary64.ofNat index⟩

def random (source : VectorSource) : Metadata × VectorSource :=
  let (n, source) := source.upTo 1
  let (x, source) := source.unit
  (⟨n == 0, x.mul (Binary64.ofNat 1000)⟩, source)

end Metadata

end LoadBench
