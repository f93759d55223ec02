import LoadBench.Binary64.Basic
import LoadBench.Text.Numeral

namespace LoadBench

structure Decimal where
  digits : Nat
  exponent : Int
deriving DecidableEq, Inhabited

namespace Decimal

open Binary64 Text

/-- The rounding interval of a magnitude in half units: from half-way to the number below up to
half-way to the number above. Both ends round to it when its bit pattern is even. -/
structure Interval where
  low : Nat
  high : Nat
  closed : Bool

def roundingInterval (magnitude : Nat) : Interval where
  low := unitsOf magnitude + unitsOf (magnitude - 1)
  high := unitsOf magnitude + unitsOf (magnitude + 1)
  closed := magnitude % 2 == 0

def Interval.contains (i : Interval) (num den : Nat) : Bool :=
  if i.closed then i.low * den ≤ 2 * num && 2 * num ≤ i.high * den
  else i.low * den < 2 * num && 2 * num < i.high * den

def stepsToOne : Nat → Nat → Nat
  | 0, _ => 0
  | fuel + 1, u => if one ≤ u then 0 else stepsToOne fuel (10 * u) + 1

def leadingExponent (u : Nat) : Int :=
  if one ≤ u then (Numeral.length (u / one) : Int) - 1 else -(stepsToOne 400 u : Int)

def unitsRatio (d : Decimal) : Nat × Nat :=
  match d.exponent with
  | .ofNat e => (d.digits * 10 ^ e * one, 1)
  | .negSucc e => (d.digits * one, 10 ^ (e + 1))

def floorOnGrid (u : Nat) (exponent : Int) : Decimal where
  exponent := exponent
  digits :=
    match exponent with
    | .ofNat e => u / (10 ^ e * one)
    | .negSucc e => u * 10 ^ (e + 1) / one

def next (d : Decimal) : Decimal := { d with digits := d.digits + 1 }

/-- Of a decimal and the next, the one in the interval; of two, the nearer to `u` units, and the
even one if both are equally near. -/
def Interval.pick? (interval : Interval) (u : Nat) (below : Decimal) : Option Decimal :=
  let (belowNum, den) := below.unitsRatio
  let (aboveNum, _) := below.next.unitsRatio
  match interval.contains belowNum den, interval.contains aboveNum den with
  | true, true =>
    let down := u * den - belowNum
    let up := aboveNum - u * den
    some (if down < up || (down == up && below.digits % 2 == 0) then below else below.next)
  | true, false => some below
  | false, true => some below.next
  | false, false => none

def onGrid? (magnitude : Nat) (exponent : Int) : Option Decimal :=
  (roundingInterval magnitude).pick? (unitsOf magnitude) (floorOnGrid (unitsOf magnitude) exponent)

/-- Tries one more digit at a time. Seventeen digits tell any two doubles apart. -/
def search (magnitude : Nat) : Nat → Int → Decimal
  | 0, exponent => floorOnGrid (unitsOf magnitude) exponent
  | fuel + 1, exponent => (onGrid? magnitude exponent).getD (search magnitude fuel (exponent - 1))

def trim : Nat → Decimal → Decimal
  | 0, d => d
  | fuel + 1, d =>
    if d.digits != 0 && d.digits % 10 == 0 then
      trim fuel ⟨d.digits / 10, d.exponent + 1⟩
    else d

/-- Of all decimals that round to a positive finite double those with the fewest digits, and of
these the nearest to it. -/
def shortest (x : Binary64) : Decimal :=
  (search x.magnitude 17 (leadingExponent x.units)).trim 17

end Decimal

end LoadBench
