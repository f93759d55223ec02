import LoadBench.Binary64.Arithmetic
import LoadBench.Text.Numeral

namespace LoadBench.Decimal

open Text

structure Written where
  negative : Bool
  whole : List Char
  fraction : List Char
  exponent : Int
deriving DecidableEq

def nearest (negative : Bool) (digits : Nat) (exponent : Int) : Binary64 :=
  let size := exponent + Numeral.length digits
  if digits = 0 || size < -400 then Binary64.ofMagnitude negative 0
  else if 400 < size then Binary64.infinity negative
  else
    match exponent with
    | .ofNat e => Binary64.ofRatio negative (digits * 10 ^ e) 1
    | .negSucc e => Binary64.ofRatio negative digits (10 ^ (e + 1))

def Written.nearest (w : Written) : Binary64 :=
  Decimal.nearest w.negative (Numeral.value (w.whole ++ w.fraction))
    (w.exponent - w.fraction.length)

def fitWord (n : Nat) : List Char → Nat × List Char
  | [] => (n, [])
  | c :: rest =>
    if 10 * n + Numeral.digitValue c ≤ Numeral.wordMax then
      fitWord (10 * n + Numeral.digitValue c) rest
    else (n, c :: rest)

def powerOfTen (e : Nat) : Binary64 := Binary64.ofNat (10 ^ e)

def scaleBy : Nat → Binary64 → Int → Option Binary64
  | _, x, .ofNat e =>
    if e ≤ 308 then
      let y := x.mul (powerOfTen e)
      if y.isInfinite then none else some y
    else if x.isZero then some x else none
  | fuel, x, .negSucc e =>
    if e + 1 ≤ 308 then some (x.div (powerOfTen (e + 1)))
    else if x.isZero then some x
    else
      match fuel with
      | 0 => some x
      | fuel + 1 => scaleBy fuel (x.div (powerOfTen 308)) (.negSucc (e - 308))

/-- The quick reading of documents: the digits that fit a machine word are rounded, then scaled by a
rounded power of ten. For long numerals it may differ from `nearest` in the last place. -/
def Written.scaled? (w : Written) : Option Binary64 :=
  let (head, dropped) := fitWord 0 w.whole
  let (digits, rest) := fitWord head w.fraction
  let exponent := w.exponent + dropped.length - (w.fraction.length - rest.length : Nat)
  (scaleBy 3 (Binary64.ofNat digits) exponent).map fun x => if w.negative then x.neg else x

def takeDigits (cs : List Char) : List Char × List Char :=
  (cs.takeWhile Numeral.isDigit, cs.dropWhile Numeral.isDigit)

def takeSign : List Char → Bool × List Char
  | '-' :: rest => (true, rest)
  | '+' :: rest => (false, rest)
  | rest => (false, rest)

def takeFraction : List Char → List Char × List Char
  | '.' :: rest => takeDigits rest
  | rest => ([], rest)

def takeExponent? : List Char → Option (Int × List Char)
  | c :: rest =>
    if c == 'e' || c == 'E' then
      let (negative, rest) := takeSign rest
      let (ds, rest) := takeDigits rest
      if ds.isEmpty then none
      else
        let n : Int := Numeral.value ds
        some (if negative then -n else n, rest)
    else some (0, c :: rest)
  | [] => some (0, [])

def lowerAscii (c : Char) : Char :=
  if 65 ≤ c.toNat && c.toNat ≤ 90 then Char.ofNat (c.toNat + 32) else c

def unsigned? (negative : Bool) (cs : List Char) : Option Binary64 :=
  let word := String.ofList (cs.map lowerAscii)
  if word == "inf" || word == "infinity" then some (Binary64.infinity negative)
  else if word == "nan" then some (if negative then Binary64.nan.neg else Binary64.nan)
  else
    let (whole, rest) := takeDigits cs
    let (fraction, rest) := takeFraction rest
    if whole.isEmpty && fraction.isEmpty then none
    else
      match takeExponent? rest with
      | some (exponent, []) => some (Written.nearest ⟨negative, whole, fraction, exponent⟩)
      | _ => none

def float? (text : String) : Option Binary64 :=
  let (negative, cs) := takeSign text.toList
  unsigned? negative cs

end LoadBench.Decimal
