import LoadBench.Binary64.Arithmetic
import LoadBench.Random.ChaCha

namespace LoadBench.Random

/-- The words not drawn yet: those left of the current block, then whole blocks from `next` on. -/
structure Generator where
  key : ChaCha.Key
  pending : List UInt32
  next : Nat

namespace Generator

def ofSeed (seed : Nat) : Generator := ⟨ChaCha.keyOfSeed (UInt64.ofNat seed), [], 0⟩

def word (g : Generator) : UInt32 × Generator :=
  match g.pending with
  | w :: rest => (w, { g with pending := rest })
  | [] =>
    match ChaCha.block g.key g.next with
    | w :: rest => (w, { g with pending := rest, next := g.next + 1 })
    | [] => (0, { g with next := g.next + 1 })

def doubleWord (g : Generator) : Nat × Generator :=
  let (low, g) := g.word
  let (high, g) := g.word
  (high.toNat * 2 ^ 32 + low.toNat, g)

def single (g : Generator) : Binary64 × Generator :=
  let (w, g) := g.word
  (Binary64.ofRatio false (w.toNat / 2 ^ 8) (2 ^ 24), g)

/-- A double-precision fraction `k / 2⁵³` with `0 ≤ k < 2⁵³`, from the high bits of two words. -/
def unit (g : Generator) : Binary64 × Generator :=
  let (n, g) := g.doubleWord
  (Binary64.ofRatio false (n / 2 ^ 11) (2 ^ 53), g)

/-- The widest multiple of the range below `2³²`, doubled up: a low half above it is rejected. -/
def acceptanceZone (range : Nat) : Nat := range * 2 ^ (31 - range.log2) - 1

/-- Tries that are made before the least number is taken instead. -/
def tries : Nat := 4096

def upToTrying : Nat → Nat → Generator → Nat × Generator
  | 0, _, g => (0, g)
  | fuel + 1, range, g =>
    let (w, g) := g.word
    let product := range * w.toNat
    if product % 2 ^ 32 ≤ acceptanceZone range then (product / 2 ^ 32, g)
    else upToTrying fuel range g

def upTo (bound : Nat) (g : Generator) : Nat × Generator := upToTrying tries (bound + 1) g

def singles : Nat → Generator → List Binary64 × Generator
  | 0, g => ([], g)
  | n + 1, g =>
    let (x, g) := g.single
    let (xs, g) := singles n g
    (x :: xs, g)

end Generator

end LoadBench.Random
