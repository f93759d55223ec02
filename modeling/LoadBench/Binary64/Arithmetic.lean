import LoadBench.Binary64.Basic

namespace LoadBench.Binary64

def signOfProduct (x y : Binary64) : Bool := x.isNegative != y.isNegative

def addFinite (x y : Binary64) : Binary64 :=
  let total := x.signedUnits + y.signedUnits
  if total = 0 then ofMagnitude (x.isNegative && y.isNegative) 0
  else ofUnits (total < 0) total.natAbs 1

def add (x y : Binary64) : Binary64 :=
  if x.isNaN then x
  else if y.isNaN then y
  else if x.isInfinite then
    if y.isInfinite && x.isNegative != y.isNegative then nan else x
  else if y.isInfinite then y
  else addFinite x y

def mul (x y : Binary64) : Binary64 :=
  if x.isNaN then x
  else if y.isNaN then y
  else if x.isInfinite || y.isInfinite then
    if x.isZero || y.isZero then nan else infinity (signOfProduct x y)
  else ofUnits (signOfProduct x y) (x.units * y.units) one

def div (x y : Binary64) : Binary64 :=
  if x.isNaN then x
  else if y.isNaN then y
  else if x.isInfinite then if y.isInfinite then nan else infinity (signOfProduct x y)
  else if y.isInfinite then ofMagnitude (signOfProduct x y) 0
  else if y.isZero then if x.isZero then nan else infinity (signOfProduct x y)
  else ofUnits (signOfProduct x y) (x.units * one) y.units

/-- The whole part as a machine word: NaN and negative numbers give zero, and what does not fit
gives the largest word. -/
def toWord (x : Binary64) : Nat :=
  if x.isNaN || x.isNegative then 0
  else if x.isInfinite then 2 ^ 64 - 1
  else min (x.units / one) (2 ^ 64 - 1)

/-- The sum of a list from the left. It starts from `-0`, which changes no other number. -/
def sum (xs : List Binary64) : Binary64 := xs.foldl add negativeZero

end LoadBench.Binary64
