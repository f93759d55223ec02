import LoadBench.Binary64.Basic
import LoadBench.Text.Numeral
import Mathlib.Data.List.Induction
import Mathlib.Tactic.Ring

namespace LoadBench.Text.Numeral

theorem isDigit_digitChar {d : Nat} (small : d < 10) : isDigit (digitChar d) = true := by
  have each : ∀ d : Fin 10, isDigit (digitChar d) = true := by decide
  exact each ⟨d, small⟩

theorem digitValue_digitChar {d : Nat} (small : d < 10) : digitValue (digitChar d) = d := by
  have each : ∀ d : Fin 10, digitValue (digitChar d) = d := by decide
  exact each ⟨d, small⟩

theorem digitValue_lt {c : Char} (digit : isDigit c = true) : digitValue c < 10 := by
  rw [isDigit, Bool.and_eq_true, decide_eq_true_eq, decide_eq_true_eq] at digit
  rw [digitValue]
  omega

theorem value_append_one (cs : List Char) (c : Char) :
    value (cs ++ [c]) = 10 * value cs + digitValue c := by
  rw [value, List.foldl_append]
  rfl

theorem value_append (cs ds : List Char) :
    value (cs ++ ds) = value cs * 10 ^ ds.length + value ds := by
  induction ds using List.reverseRecOn with
  | nil => simp [value]
  | append_singleton ds d ih =>
    rw [← List.append_assoc, value_append_one, ih, value_append_one, List.length_append,
      List.length_singleton, Nat.pow_succ]
    ring

theorem value_zeros (n : Nat) : value (List.replicate n '0') = 0 := by
  induction n with
  | zero => rfl
  | succ n ih =>
    rw [List.replicate_succ', value_append_one, ih]
    rfl

theorem value_lt {cs : List Char} (digits : ∀ c ∈ cs, isDigit c = true) :
    value cs < 10 ^ cs.length := by
  induction cs using List.reverseRecOn with
  | nil => decide
  | append_singleton cs c ih =>
    have before := ih fun d member => digits d (List.mem_append_left _ member)
    have last := digitValue_lt (digits c (List.mem_append_right _ (List.mem_singleton_self c)))
    rw [value_append_one, List.length_append, List.length_singleton, Nat.pow_succ]
    omega

theorem value_digits (n : Nat) : value (digits n) = n := by
  fun_induction digits n with
  | case1 n small => simp [value, digitValue_digitChar small]
  | case2 n large ih =>
    rw [value_append_one, ih, digitValue_digitChar (Nat.mod_lt n (by decide))]
    omega

theorem digits_injective : Function.Injective digits := by
  intro m n same
  have values := congrArg value same
  rwa [value_digits, value_digits] at values

theorem isDigit_of_mem_digits {n : Nat} {c : Char} (member : c ∈ digits n) : isDigit c = true := by
  fun_induction digits n with
  | case1 n small =>
    rw [List.mem_singleton.mp member]
    exact isDigit_digitChar small
  | case2 n large ih =>
    rcases List.mem_append.mp member with front | last
    · exact ih front
    · rw [List.mem_singleton.mp last]
      exact isDigit_digitChar (Nat.mod_lt n (by decide))

theorem not_mem_digits {c : Char} (other : isDigit c = false) (n : Nat) : c ∉ digits n := by
  intro member
  rw [isDigit_of_mem_digits member] at other
  cases other

theorem length_digits (n : Nat) : (digits n).length = length n := by
  fun_induction digits n with
  | case1 n small => rw [length, if_pos small, List.length_singleton]
  | case2 n large ih =>
    rw [length, if_neg large, List.length_append, ih, List.length_singleton]

theorem lt_pow_length (n : Nat) : n < 10 ^ length n := by
  have bound := value_lt fun c member => isDigit_of_mem_digits (n := n) member
  rw [value_digits, length_digits] at bound
  exact bound

theorem length_pos (n : Nat) : 0 < length n := by
  fun_cases length n with
  | case1 => decide
  | case2 => exact Nat.succ_pos _

theorem pow_length_le {n : Nat} (nonzero : n ≠ 0) : 10 ^ (length n - 1) ≤ n := by
  fun_induction length n with
  | case1 n small =>
    rw [Nat.sub_self, Nat.pow_zero]
    omega
  | case2 n large ih =>
    have more := ih (by omega)
    have one := length_pos (n / 10)
    obtain ⟨k, same⟩ : ∃ k, length (n / 10) = k + 1 := ⟨length (n / 10) - 1, by omega⟩
    rw [same, Nat.add_sub_cancel] at more
    rw [same, Nat.add_sub_cancel, Nat.pow_succ]
    omega

theorem digits_ne_nil (n : Nat) : digits n ≠ [] := by
  fun_cases digits n with
  | case1 => exact List.cons_ne_nil _ _
  | case2 => exact List.append_ne_nil_of_right_ne_nil _ (List.cons_ne_nil _ _)

theorem digits_eq_cons (n : Nat) : ∃ c cs, digits n = c :: cs ∧ isDigit c = true := by
  obtain ⟨c, cs, split⟩ := List.exists_cons_of_ne_nil (digits_ne_nil n)
  have member : c ∈ digits n := by
    rw [split]
    exact List.mem_cons_self
  exact ⟨c, cs, split, isDigit_of_mem_digits member⟩

theorem head?_digits {n : Nat} (several : 1 < (digits n).length) :
    (digits n).head? ≠ some '0' := by
  intro zero
  obtain ⟨cs, split⟩ := List.head?_eq_some_iff.mp zero
  have small : n < 10 ^ cs.length := by
    have bound := value_lt fun c member => isDigit_of_mem_digits (n := n)
      (split ▸ List.mem_cons_of_mem '0' member)
    have whole := value_append ['0'] cs
    have nothing : value ['0'] = 0 := rfl
    rw [List.singleton_append, ← split, value_digits, nothing, Nat.zero_mul, Nat.zero_add] at whole
    rw [whole]
    exact bound
  have nonzero : n ≠ 0 := by
    rintro rfl
    rw [length_digits, length, if_pos (by decide)] at several
    exact Nat.lt_irrefl 1 several
  have large := pow_length_le nonzero
  rw [← length_digits, split, List.length_cons, Nat.add_sub_cancel] at large
  exact Nat.not_lt.mpr large small

theorem allDigits_iff (cs : List Char) :
    allDigits cs = true ↔ cs ≠ [] ∧ ∀ c ∈ cs, isDigit c = true := by
  rw [allDigits, Bool.and_eq_true, List.all_eq_true, Bool.not_eq_true', List.isEmpty_eq_false_iff]

theorem allDigits_digits (n : Nat) : allDigits (digits n) = true := by
  rw [allDigits_iff]
  exact ⟨digits_ne_nil n, fun c member => isDigit_of_mem_digits member⟩

theorem word?_toString {n : Nat} (small : n ≤ wordMax) : word? (toString n) = some n := by
  obtain ⟨c, cs, split, digit⟩ := digits_eq_cons n
  have unsigned : c ≠ '+' := by
    rintro rfl
    cases digit
  have whole : allDigits (digits n) && value (digits n) ≤ wordMax := by
    rw [allDigits_digits, value_digits, Bool.true_and]
    exact decide_eq_true small
  have unfolded : word? (toString n) =
      if allDigits (digits n) && value (digits n) ≤ wordMax then some (value (digits n))
      else none := by
    rw [word?, toString, String.toList_ofList, split]
    split
    · rename_i first rest same
      exact absurd (List.cons.inj same).1 unsigned
    · rfl
  rw [unfolded, if_pos whole, value_digits]

/-- Decimal digits, at least one, that stand for a number, with or without a plus sign in front. -/
def IsNumeral (text : String) (n : Nat) : Prop :=
  ∃ ds : List Char, (text.toList = ds ∨ text.toList = '+' :: ds) ∧ ds ≠ [] ∧
    (∀ d ∈ ds, isDigit d = true) ∧ value ds = n

theorem word?_eq_some_iff (text : String) (n : Nat) :
    word? text = some n ↔ IsNumeral text n ∧ n ≤ wordMax := by
  have reads (ds : List Char) :
      (if (allDigits ds && decide (value ds ≤ wordMax)) = true then some (value ds) else none) =
        some n ↔ (ds ≠ [] ∧ (∀ d ∈ ds, isDigit d = true) ∧ value ds = n) ∧ n ≤ wordMax := by
    rw [Option.ite_none_right_eq_some, Bool.and_eq_true, allDigits_iff, decide_eq_true_eq,
      Option.some.injEq]
    constructor
    · rintro ⟨⟨⟨nonempty, digits⟩, small⟩, rfl⟩
      exact ⟨⟨nonempty, digits, rfl⟩, small⟩
    · rintro ⟨⟨nonempty, digits, rfl⟩, small⟩
      exact ⟨⟨⟨nonempty, digits⟩, small⟩, rfl⟩
  rw [word?, IsNumeral]
  split
  · rename_i rest signed
    rw [reads rest]
    refine and_congr_left fun _ => ⟨fun whole => ⟨rest, .inr signed, whole⟩, ?_⟩
    rintro ⟨ds, bare | same, nonempty, digits, stands⟩
    · -- A sign is no digit.
      rw [← bare, signed] at digits
      cases digits '+' List.mem_cons_self
    · rw [signed, List.cons.injEq] at same
      rw [same.2]
      exact ⟨nonempty, digits, stands⟩
  · rename_i unsigned
    rw [reads text.toList]
    refine and_congr_left fun _ => ⟨fun whole => ⟨text.toList, .inl rfl, whole⟩, ?_⟩
    rintro ⟨ds, bare | signed, whole⟩
    · rw [bare]
      exact whole
    · exact absurd signed (unsigned ds)

end LoadBench.Text.Numeral
