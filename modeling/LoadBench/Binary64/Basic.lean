namespace LoadBench

-- Powers of natural numbers are always the core library's, also beside those of monoids.
attribute [instance (20000), default_instance (20000)] instPowNat

/-- A double-precision number: sign bit, eleven bits of exponent, 52 bits of fraction. Every finite
one is a whole number of units of `2⁻¹⁰⁷⁴`, so operations are exact on integers and then rounded
once, by `ofUnits`. -/
structure Binary64 where
  bits : UInt64
deriving DecidableEq, Inhabited

namespace Binary64

/-- The bits without the sign. Magnitudes order doubles by size; each step is one unit in the last
place. -/
def magnitude (x : Binary64) : Nat := x.bits.toNat % 2 ^ 63

def isNegative (x : Binary64) : Bool := 2 ^ 63 ≤ x.bits.toNat

def infinityMagnitude : Nat := 0x7FF * 2 ^ 52

def isNaN (x : Binary64) : Bool := infinityMagnitude < x.magnitude

def isInfinite (x : Binary64) : Bool := x.magnitude == infinityMagnitude

def isFinite (x : Binary64) : Bool := x.magnitude < infinityMagnitude

def isZero (x : Binary64) : Bool := x.magnitude == 0

def ofMagnitude (negative : Bool) (magnitude : Nat) : Binary64 :=
  ⟨UInt64.ofNat (magnitude + if negative then 2 ^ 63 else 0)⟩

def zero : Binary64 := ofMagnitude false 0

def negativeZero : Binary64 := ofMagnitude true 0

def infinity (negative : Bool) : Binary64 := ofMagnitude negative infinityMagnitude

def nan : Binary64 := ofMagnitude false (0x7FF8 * 2 ^ 48)

def neg (x : Binary64) : Binary64 := ofMagnitude (!x.isNegative) x.magnitude

def unitsOf (magnitude : Nat) : Nat :=
  if magnitude < 2 ^ 52 then magnitude
  else (magnitude % 2 ^ 52 + 2 ^ 52) * 2 ^ (magnitude / 2 ^ 52 - 1)

def units (x : Binary64) : Nat := unitsOf x.magnitude

def signedUnits (x : Binary64) : Int := if x.isNegative then -(x.units : Int) else x.units

def one : Nat := 2 ^ 1074

def roundDiv (num den : Nat) : Nat :=
  let q := num / den
  let r := num % den
  if 2 * r < den then q else if den < 2 * r then q + 1 else q + q % 2

/-- The magnitude nearest to `num / den` units: the 53 leading bits, rounded, above a count of the
places dropped. A carry out of the 53 bits moves on to the next exponent by itself. -/
def roundMagnitude (num den : Nat) : Nat :=
  let places := (num / den).log2 - 52
  min (places * 2 ^ 52 + roundDiv num (den * 2 ^ places)) infinityMagnitude

def ofUnits (negative : Bool) (num den : Nat) : Binary64 :=
  ofMagnitude negative (roundMagnitude num den)

def ofRatio (negative : Bool) (num den : Nat) : Binary64 := ofUnits negative (num * one) den

def ofNat (n : Nat) : Binary64 := ofRatio false n 1

def ofInt (n : Int) : Binary64 := ofRatio (n < 0) n.natAbs 1

/-- Position in the total order of all bit patterns: negative NaNs, negative numbers, `-0`, `+0`,
positive numbers, positive NaNs. -/
def rank (x : Binary64) : Int :=
  if x.isNegative then -(x.magnitude : Int) - 1 else x.magnitude

def totalLE (x y : Binary64) : Bool := x.rank ≤ y.rank

def numericRank (x : Binary64) : Int :=
  if x.isNegative then -(x.magnitude : Int) else x.magnitude

def lt (x y : Binary64) : Bool := !x.isNaN && !y.isNaN && x.numericRank < y.numericRank

def le (x y : Binary64) : Bool := !x.isNaN && !y.isNaN && x.numericRank ≤ y.numericRank

end Binary64

end LoadBench
