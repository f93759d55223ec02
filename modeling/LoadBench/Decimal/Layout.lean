import LoadBench.Decimal.Shortest
import LoadBench.Text.Numeral

namespace LoadBench.Decimal

open Text

structure Layout where
  positional : Int → Bool
  wholeSuffix : List Char

/-- Without exponents, a whole number without a point: the form of messages and arguments. -/
def plain : Layout where
  positional := fun _ => true
  wholeSuffix := []

/-- Without an exponent from `10⁻⁵` up to below `10¹⁶`, a whole number with `.0`: the form of
documents. -/
def document : Layout where
  positional := fun power => -5 ≤ power && power ≤ 15
  wholeSuffix := ['.', '0']

def positionalText (suffix : List Char) (ds : List Char) (power : Int) : List Char :=
  if power < 0 then
    ['0', '.'] ++ List.replicate (-power - 1).toNat '0' ++ ds
  else
    let whole := power.toNat + 1
    if ds.length ≤ whole then ds ++ List.replicate (whole - ds.length) '0' ++ suffix
    else ds.take whole ++ '.' :: ds.drop whole

def exponentText (ds : List Char) (power : Int) : List Char :=
  let digits := match ds with
    | [] => []
    | [d] => [d]
    | d :: more => d :: '.' :: more
  digits ++ 'e' :: (if power < 0 then '-' else '+') :: Numeral.digits power.natAbs

def Layout.ofDecimal (layout : Layout) (d : Decimal) : List Char :=
  let ds := Numeral.digits d.digits
  let power := d.exponent + ds.length - 1
  if layout.positional power then positionalText layout.wholeSuffix ds power
  else exponentText ds power

def Layout.text (layout : Layout) (x : Binary64) : List Char :=
  if x.isNaN then ['N', 'a', 'N']
  else
    (if x.isNegative then ['-'] else []) ++
      (if x.isInfinite then ['i', 'n', 'f']
      else if x.isZero then '0' :: layout.wholeSuffix
      else layout.ofDecimal (shortest x))

def plainText (x : Binary64) : String := String.ofList (plain.text x)

end LoadBench.Decimal
