import LoadBench.Binary64.Basic
import LoadBench.Text.Numeral

namespace LoadBench.Decimal

open Text

def padded (width n : Nat) : List Char :=
  let ds := Numeral.digits n
  List.replicate (width - ds.length) '0' ++ ds

def hundredthsText (n : Nat) : List Char :=
  Numeral.digits (n / 100) ++ '.' :: padded 2 (n % 100)

/-- The exact value is rounded, a half to the even neighbour. A negative number keeps its sign even
where only zeros remain. -/
def twoPlaces (x : Binary64) : String :=
  String.ofList <|
    if x.isNaN then ['N', 'a', 'N']
    else
      (if x.isNegative then ['-'] else []) ++
        (if x.isInfinite then ['i', 'n', 'f']
        else hundredthsText (Binary64.roundDiv (100 * x.units) Binary64.one))

end LoadBench.Decimal
