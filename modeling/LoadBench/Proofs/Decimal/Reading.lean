import LoadBench.Decimal.Layout
import LoadBench.Decimal.Reading
import LoadBench.Proofs.Binary64.Sign
import LoadBench.Proofs.Decimal.Shortest
import Mathlib.Data.List.TakeWhile

namespace LoadBench

open Text

namespace Decimal

open Binary64

theorem two_pow_le_mul_one (k n : Nat) (places : k ≤ 3 * n + 1074) : 2 ^ k ≤ 10 ^ n * one := by
  unfold one
  calc 2 ^ k ≤ 2 ^ (3 * n + 1074) := Nat.pow_le_pow_right Nat.two_pos places
    _ = 8 ^ n * 2 ^ 1074 := by rw [Nat.pow_add, Nat.pow_mul]
    _ ≤ 10 ^ n * 2 ^ 1074 := Nat.mul_le_mul_right _ (Nat.pow_le_pow_left (by decide) n)

theorem unitsOf_succ_le {m : Nat} (finite : m < infinityMagnitude) (k : Nat)
    (enough : 1024 ≤ 3 * k) : unitsOf (m + 1) ≤ 10 ^ k * one := by
  obtain ⟨p, s, scaled, small⟩ := exists_scaled m
  have places : p ≤ 2045 := by
    have sum := scaled.sum
    have normal := scaled.normal
    rw [infinityMagnitude] at finite
    omega
  rw [(scaled.succ small).unitsOf]
  calc (s + 1) * 2 ^ p ≤ 2 ^ 53 * 2 ^ p := Nat.mul_le_mul_right _ small
    _ = 2 ^ (53 + p) := (Nat.pow_add 2 53 p).symm
    _ ≤ 10 ^ k * one := two_pow_le_mul_one (53 + p) k (by omega)

theorem worth_le_of_size {n k : Nat} {e : Int} (enough : 1074 ≤ 3 * k)
    (small : e + Numeral.length n < -(k : Int)) : worth ⟨n, e⟩ ≤ 10⁻¹ := by
  have digits : (n : ℚ) ≤ 10 ^ (Numeral.length n : Int) := by
    rw [zpow_natCast]
    exact_mod_cast (Numeral.lt_pow_length n).le
  have power : (10 : ℚ) ^ (e + Numeral.length n) ≤ 10 ^ (-(k : Int) - 1) :=
    zpow_le_zpow_right₀ (by norm_num) (by omega)
  have product : (n : ℚ) * 10 ^ e ≤ 10 ^ (e + Numeral.length n) := by
    rw [zpow_add₀ (by norm_num), mul_comm]
    gcongr
  have places : (one : ℚ) ≤ 10 ^ k := by
    have places := one_le_pow_mul k Nat.one_pos enough
    rw [Nat.mul_one] at places
    exact_mod_cast places
  have ratio : ((10 : ℚ) ^ k)⁻¹ * one ≤ 1 := by
    rw [inv_mul_le_iff₀ (by positivity), mul_one]
    exact places
  calc worth ⟨n, e⟩ ≤ 10 ^ (-(k : Int) - 1) * one :=
        mul_le_mul_of_nonneg_right (product.trans power) one_pos_rat.le
    _ = ((10 : ℚ) ^ k)⁻¹ * one * 10⁻¹ := by
        rw [zpow_sub_one₀ (by norm_num), zpow_neg, zpow_natCast]
        ring
    _ ≤ 1 * 10⁻¹ := by gcongr
    _ = 10⁻¹ := one_mul _

theorem le_worth_of_size {n k : Nat} {e : Int} (nonzero : n ≠ 0)
    (large : (k : Int) < e + Numeral.length n) : (10 ^ k * one : ℚ) ≤ worth ⟨n, e⟩ := by
  have first := Numeral.length_pos n
  have digits : (10 : ℚ) ^ (Numeral.length n - 1 : Nat) ≤ n := by
    exact_mod_cast Numeral.pow_length_le nonzero
  have power : (10 : ℚ) ^ (k : Int) ≤ 10 ^ (e + (Numeral.length n - 1 : Nat)) :=
    zpow_le_zpow_right₀ (by norm_num) (by omega)
  have product : (10 : ℚ) ^ (e + (Numeral.length n - 1 : Nat)) ≤ n * 10 ^ e := by
    rw [zpow_add₀ (by norm_num), mul_comm, zpow_natCast]
    gcongr
  rw [← zpow_natCast]
  exact mul_le_mul_of_nonneg_right (power.trans product) one_pos_rat.le

theorem size_of_holds {m n : Nat} {e : Int} (nonzero : 0 < m) (finite : m < infinityMagnitude)
    (holds : (roundingInterval m).Holds (worth ⟨n, e⟩)) (k : Nat) (enough : 1074 ≤ 3 * k) :
    n ≠ 0 ∧ -(k : Int) ≤ e + Numeral.length n ∧ e + Numeral.length n ≤ k := by
  have low := holds.low
  have high := holds.high
  have least : (1 : ℚ) ≤ (roundingInterval m).low := by
    have positive := unitsOf_pred_lt nonzero
    rw [roundingInterval]
    exact_mod_cast (by omega : 1 ≤ unitsOf m + unitsOf (m - 1))
  have most : ((roundingInterval m).high : ℚ) < 2 * (10 ^ k * one) := by
    have more := unitsOf_lt_succ m
    have bound := unitsOf_succ_le finite k (by omega)
    rw [roundingInterval]
    exact_mod_cast (by omega : unitsOf m + unitsOf (m + 1) < 2 * (10 ^ k * one))
  have positive : n ≠ 0 := by
    rintro rfl
    simp only [worth, Nat.cast_zero, zero_mul, mul_zero] at low
    linarith
  refine ⟨positive, ?_, ?_⟩
  · by_contra small
    have tiny := worth_le_of_size enough (not_le.mp small)
    norm_num at tiny
    linarith
  · by_contra large
    have huge := le_worth_of_size positive (not_le.mp large)
    linarith

theorem nearest_of_holds {m n : Nat} {e : Int} (nonzero : 0 < m) (finite : m < infinityMagnitude)
    (holds : (roundingInterval m).Holds (worth ⟨n, e⟩)) (negative : Bool) :
    nearest negative n e = ofMagnitude negative m := by
  obtain ⟨positive, notSmall, notLarge⟩ := size_of_holds nonzero finite holds 400 (by decide)
  have inside := (contains_unitsRatio (roundingInterval m) ⟨n, e⟩).mpr holds
  have rounded := roundMagnitude_of_contains nonzero finite (unitsRatio_den_pos ⟨n, e⟩) inside
  have small : (n = 0 || decide (e + Numeral.length n < -400)) = false := by
    rw [Bool.or_eq_false_iff, decide_eq_false_iff_not, decide_eq_false_iff_not]
    exact ⟨positive, not_lt.mpr notSmall⟩
  have fits : ¬ (400 : Int) < e + Numeral.length n := not_lt.mpr notLarge
  simp only [nearest, small, Bool.false_eq_true, if_false, fits]
  cases e with
  | ofNat e =>
    simp only [unitsRatio] at rounded
    simp only [ofRatio, ofUnits, rounded]
  | negSucc e =>
    simp only [unitsRatio] at rounded
    simp only [ofRatio, ofUnits, rounded]

def pointed (fraction : List Char) : List Char :=
  if fraction = [] then [] else '.' :: fraction

theorem takeDigits_append {ds rest : List Char} (digits : ∀ c ∈ ds, Numeral.isDigit c = true)
    (stop : ∀ c ∈ rest.head?, Numeral.isDigit c = false) :
    takeDigits (ds ++ rest) = (ds, rest) := by
  rw [takeDigits, List.takeWhile_append_of_pos digits, List.dropWhile_append_of_pos digits]
  cases rest with
  | nil => rw [List.takeWhile_nil, List.dropWhile_nil, List.append_nil]
  | cons c rest =>
    have other := stop c rfl
    rw [List.takeWhile_cons, List.dropWhile_cons, other, if_neg Bool.false_ne_true,
      if_neg Bool.false_ne_true, List.append_nil]

theorem takeFraction_pointed {fraction : List Char}
    (digits : ∀ c ∈ fraction, Numeral.isDigit c = true) :
    takeFraction (pointed fraction) = (fraction, []) := by
  rw [pointed]
  split
  · rename_i unpointed
    rw [unpointed]
    rfl
  · have taken : takeDigits (fraction ++ []) = (fraction, []) :=
      takeDigits_append digits (by simp)
    rw [List.append_nil] at taken
    exact taken

theorem takeSign_signed {negative : Bool} {c : Char} {cs : List Char}
    (digit : Numeral.isDigit c = true) :
    takeSign ((if negative then ['-'] else []) ++ c :: cs) = (negative, c :: cs) := by
  cases negative with
  | true => rfl
  | false =>
    rw [if_neg Bool.false_ne_true, List.nil_append, takeSign.eq_def]
    split
    · rename_i same
      rw [(List.cons.inj same).1] at digit
      cases digit
    · rename_i same
      rw [(List.cons.inj same).1] at digit
      cases digit
    · rfl

theorem lower_ne_of_digit {c : Char} {cs : List Char} (digit : Numeral.isDigit c = true)
    (word : String) (letter : word.toList.head?.any Numeral.isDigit = false) :
    (String.ofList ((c :: cs).map lowerAscii) == word) = false := by
  have same : lowerAscii c = c := by
    rw [Numeral.isDigit, Bool.and_eq_true, decide_eq_true_eq, decide_eq_true_eq] at digit
    have notUpper : ¬ (65 ≤ c.toNat) := by omega
    rw [lowerAscii, decide_eq_false notUpper]
    rfl
  rw [beq_eq_false_iff_ne]
  rintro rfl
  rw [String.toList_ofList, List.map_cons, same, List.head?_cons, Option.any_some, digit] at letter
  cases letter

theorem float?_numeral {text : String} {negative : Bool} {whole fraction : List Char}
    (nonempty : whole ≠ []) (wholeDigits : ∀ c ∈ whole, Numeral.isDigit c = true)
    (fractionDigits : ∀ c ∈ fraction, Numeral.isDigit c = true)
    (characters : text.toList = (if negative then ['-'] else []) ++ (whole ++ pointed fraction)) :
    float? text =
      Option.some (Written.nearest ⟨negative, whole, fraction, 0⟩) := by
  obtain ⟨c, cs, split⟩ := List.exists_cons_of_ne_nil nonempty
  have digit : Numeral.isDigit c = true := wholeDigits c (split ▸ List.mem_cons_self)
  have taken : takeDigits (whole ++ pointed fraction) = (whole, pointed fraction) := by
    refine takeDigits_append wholeDigits fun d member => ?_
    rw [pointed] at member
    split at member
    · cases member
    · cases member
      rfl
  have sign : takeSign text.toList = (negative, whole ++ pointed fraction) := by
    rw [characters, split]
    exact takeSign_signed digit
  have lower (word : String) (letter : word.toList.head?.any Numeral.isDigit = false) :
      (String.ofList ((whole ++ pointed fraction).map lowerAscii) == word) = false := by
    rw [split]
    exact lower_ne_of_digit digit word letter
  have nonempty : whole.isEmpty = false := List.isEmpty_eq_false_iff.mpr nonempty
  simp only [float?, sign, unsigned?, lower "inf" (by decide),
    lower "infinity" (by decide), lower "nan" (by decide), taken,
    takeFraction_pointed fractionDigits, nonempty, takeExponent?, Bool.or_self, Bool.false_and,
    Bool.false_eq_true, if_false]

/-- A numeral without an exponent that amounts to `v` units. -/
structure Spells (whole fraction : List Char) (v : ℚ) : Prop where
  nonempty : whole ≠ []
  wholeDigits : ∀ c ∈ whole, Numeral.isDigit c = true
  fractionDigits : ∀ c ∈ fraction, Numeral.isDigit c = true
  worth : worth ⟨Numeral.value (whole ++ fraction), -fraction.length⟩ = v

theorem isDigit_of_mem_zeros {n : Nat} {c : Char} (member : c ∈ List.replicate n '0') :
    Numeral.isDigit c = true := by
  rw [List.eq_of_mem_replicate member]
  rfl

theorem worth_shift (n k : Nat) : worth ⟨n * 10 ^ k, 0⟩ = worth ⟨n, k⟩ := by
  simp only [worth]
  rw [zpow_natCast, zpow_zero]
  push_cast
  ring

section Positional

variable {d : Decimal} {ds : List Char} {power : Int}

theorem positionalText_below (nonempty : ds ≠ []) (digits : ∀ c ∈ ds, Numeral.isDigit c = true)
    (value : Numeral.value ds = d.digits) (leading : power = d.exponent + ds.length - 1)
    (below : power < 0) :
    ∃ whole fraction, Spells whole fraction d.worth ∧
      positionalText [] ds power = whole ++ pointed fraction := by
  rw [positionalText, if_pos below]
  generalize zeros : List.replicate (-power - 1).toNat '0' = front
  have width : (front.length : Int) = -power - 1 := by
    rw [← zeros, List.length_replicate]
    omega
  refine ⟨['0'], front ++ ds, ⟨List.cons_ne_nil _ _, List.forall_mem_singleton.mpr rfl, ?_, ?_⟩, ?_⟩
  · intro c member
    rw [← zeros] at member
    exact (List.mem_append.mp member).elim isDigit_of_mem_zeros (digits c)
  · have read : Numeral.value (['0'] ++ (front ++ ds)) = d.digits := by
      rw [← zeros, Numeral.value_append, Numeral.value_append, Numeral.value_zeros, value]
      simp [Numeral.value, Numeral.digitValue]
    have places : -((front ++ ds).length : Int) = d.exponent := by
      rw [List.length_append]
      omega
    rw [read, places]
  · rw [pointed, if_neg (List.append_ne_nil_of_right_ne_nil front nonempty)]
    rfl

theorem positionalText_whole (nonempty : ds ≠ []) (digits : ∀ c ∈ ds, Numeral.isDigit c = true)
    (value : Numeral.value ds = d.digits) (leading : power = d.exponent + ds.length - 1)
    (above : ¬ power < 0) (short : ds.length ≤ power.toNat + 1) :
    ∃ whole fraction, Spells whole fraction d.worth ∧
      positionalText [] ds power = whole ++ pointed fraction := by
  rw [positionalText, if_neg above]
  dsimp only
  rw [if_pos short]
  obtain ⟨e, shift⟩ : ∃ e : Nat, d.exponent = e := ⟨d.exponent.toNat, by omega⟩
  have width : power.toNat + 1 - ds.length = e := by omega
  rw [width]
  refine ⟨ds ++ List.replicate e '0', [],
    ⟨List.append_ne_nil_of_left_ne_nil nonempty _, ?_, by simp, ?_⟩, rfl⟩
  · exact fun c member => (List.mem_append.mp member).elim (digits c) isDigit_of_mem_zeros
  · have read : Numeral.value (ds ++ List.replicate e '0' ++ []) = d.digits * 10 ^ e := by
      rw [List.append_nil, Numeral.value_append, Numeral.value_zeros, value, List.length_replicate,
        Nat.add_zero]
    rw [read, List.length_nil, Int.natCast_zero, Int.neg_zero, worth_shift, ← shift]

theorem positionalText_pointed (digits : ∀ c ∈ ds, Numeral.isDigit c = true)
    (value : Numeral.value ds = d.digits) (leading : power = d.exponent + ds.length - 1)
    (above : ¬ power < 0) (long : ¬ ds.length ≤ power.toNat + 1) :
    ∃ whole fraction, Spells whole fraction d.worth ∧
      positionalText [] ds power = whole ++ pointed fraction := by
  rw [positionalText, if_neg above]
  dsimp only
  rw [if_neg long]
  generalize place : power.toNat + 1 = w at long ⊢
  have front : (ds.take w).length = w := by
    rw [List.length_take]
    omega
  have back : (ds.drop w).length = ds.length - w := List.length_drop
  refine ⟨ds.take w, ds.drop w, ⟨?_, ?_, ?_, ?_⟩, ?_⟩
  · exact List.length_pos_iff.mp (by omega)
  · exact fun c member => digits c (List.mem_of_mem_take member)
  · exact fun c member => digits c (List.mem_of_mem_drop member)
  · have places : -((ds.drop w).length : Int) = d.exponent := by omega
    rw [List.take_append_drop, value, places]
  · rw [pointed, if_neg (List.length_pos_iff.mp (by omega))]

end Positional

theorem plain_ofDecimal (d : Decimal) :
    ∃ whole fraction, Spells whole fraction d.worth ∧
      plain.ofDecimal d = whole ++ pointed fraction := by
  have nonempty := Numeral.digits_ne_nil d.digits
  have digits : ∀ c ∈ Numeral.digits d.digits, Numeral.isDigit c = true :=
    fun c member => Numeral.isDigit_of_mem_digits member
  have value := Numeral.value_digits d.digits
  have layout : plain.ofDecimal d = positionalText [] (Numeral.digits d.digits)
      (d.exponent + (Numeral.digits d.digits).length - 1) := by
    rw [Layout.ofDecimal]
    exact if_pos rfl
  rw [layout]
  by_cases below : d.exponent + (Numeral.digits d.digits).length - 1 < 0
  · exact positionalText_below nonempty digits value rfl below
  · by_cases short : (Numeral.digits d.digits).length ≤
        (d.exponent + (Numeral.digits d.digits).length - 1).toNat + 1
    · exact positionalText_whole nonempty digits value rfl below short
    · exact positionalText_pointed digits value rfl below short

theorem float?_ofDecimal {x : Binary64} (nonzero : 0 < x.magnitude)
    (finite : x.magnitude < infinityMagnitude) {text : String}
    (characters : text.toList =
      (if x.isNegative then ['-'] else []) ++ plain.ofDecimal (shortest x)) :
    float? text = some x := by
  obtain ⟨whole, fraction, spells, layout⟩ := plain_ofDecimal (shortest x)
  rw [layout] at characters
  have holds := shortest_holds nonzero
  rw [← spells.worth] at holds
  rw [float?_numeral spells.nonempty spells.wholeDigits spells.fractionDigits characters,
    Written.nearest]
  dsimp only
  rw [Int.zero_sub, nearest_of_holds nonzero finite holds, ofMagnitude_self]

theorem float?_infinity {negative : Bool} {text : String}
    (characters : text.toList = (if negative then ['-'] else []) ++ ['i', 'n', 'f']) :
    float? text = some (infinity negative) := by
  have sign : takeSign text.toList = (negative, ['i', 'n', 'f']) := by
    rw [characters]
    cases negative <;> rfl
  have word : (String.ofList (['i', 'n', 'f'].map lowerAscii) == "inf") = true := by decide
  simp only [float?, sign, unsigned?, word, Bool.true_or, if_true]

theorem float?_zero {negative : Bool} {text : String}
    (characters : text.toList = (if negative then ['-'] else []) ++ ['0']) :
    float? text = some (ofMagnitude negative 0) := by
  have read : float? text = some (Written.nearest ⟨negative, ['0'], [], 0⟩) :=
    float?_numeral (List.cons_ne_nil '0' []) (List.forall_mem_singleton.mpr rfl) (by simp)
      characters
  have nothing : Numeral.value (['0'] ++ []) = 0 := by decide
  rw [read, Written.nearest, nothing]
  simp only [nearest, decide_true, Bool.true_or, if_true]

theorem toList_plainText {x : Binary64} (number : x.isNaN = false) :
    (plainText x).toList =
      (if x.isNegative then ['-'] else []) ++
        (if x.isInfinite then ['i', 'n', 'f']
        else if x.isZero then ['0']
        else plain.ofDecimal (shortest x)) := by
  rw [plainText, String.toList_ofList, Layout.text, if_neg (Bool.eq_false_iff.mp number)]
  rfl

/-- The text of a number reads back as the number. -/
theorem float?_plainText {x : Binary64} (number : x.isNaN = false) :
    float? (plainText x) = some x := by
  have characters := toList_plainText number
  have self := ofMagnitude_self x
  cases infinite : x.isInfinite with
  | true =>
    rw [infinite, if_pos rfl] at characters
    rw [isInfinite, beq_iff_eq] at infinite
    rw [infinite] at self
    rw [float?_infinity characters, infinity, self]
  | false =>
    rw [infinite, if_neg Bool.false_ne_true] at characters
    cases zero : x.isZero with
    | true =>
      rw [zero, if_pos rfl] at characters
      rw [isZero, beq_iff_eq] at zero
      rw [zero] at self
      rw [float?_zero characters, self]
    | false =>
      rw [zero, if_neg Bool.false_ne_true] at characters
      rw [isNaN, decide_eq_false_iff_not] at number
      rw [isInfinite, beq_eq_false_iff_ne] at infinite
      rw [isZero, beq_eq_false_iff_ne] at zero
      exact float?_ofDecimal (Nat.pos_of_ne_zero zero) (by omega) characters

theorem head?_plainText {x : Binary64} (number : x.isNaN = false) :
    (plainText x).toList.head? = some '-' ↔ x.isNegative = true := by
  rw [toList_plainText number]
  cases negative : x.isNegative with
  | true => simp
  | false =>
    rw [if_neg Bool.false_ne_true, List.nil_append]
    split
    · simp
    · split
      · simp
      · obtain ⟨whole, fraction, spells, layout⟩ := plain_ofDecimal (shortest x)
        obtain ⟨c, cs, split⟩ := List.exists_cons_of_ne_nil spells.nonempty
        have digit := spells.wholeDigits c (split ▸ List.mem_cons_self)
        rw [layout, split, List.cons_append, List.head?_cons, Option.some.injEq]
        refine ⟨?_, fun impossible => absurd impossible Bool.false_ne_true⟩
        rintro rfl
        cases digit

end Decimal

end LoadBench
