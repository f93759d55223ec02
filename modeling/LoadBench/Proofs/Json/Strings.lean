import LoadBench.Json.Printer
import LoadBench.Json.Reader

namespace LoadBench.Json.Reader

/-- What is read of a character: itself, or the number of one that is written by its number. -/
def unit (c : Char) : Char ⊕ Nat :=
  if c.toNat < 32 ∧ c ∉ ['\x08', '\t', '\n', '\x0c', '\r'] then .inr c.toNat else .inl c

theorem stringUnits?_letter {letter c : Char} (known : escaped? letter = some c)
    (rest : List Char) :
    stringUnits? ('\\' :: letter :: rest) =
      (stringUnits? rest).map fun read => (.inl c :: read.1, read.2) := by
  have other : letter ≠ 'u' := by
    rintro rfl
    cases known
  rw [stringUnits?, known]
  · cases stringUnits? rest <;> rfl
  · intro _ _ _ _ _ same
    exact absurd same other

theorem hexValue?_digitChar : ∀ d : Fin 16, hexValue? (Nat.digitChar d) = some d.val := by
  decide

theorem stringUnits?_number {n : Nat} (small : n < 32) (rest : List Char) :
    stringUnits? ('\\' :: 'u' :: '0' :: '0' :: Nat.digitChar (n / 16) :: Nat.digitChar (n % 16) ::
        rest) =
      (stringUnits? rest).map fun read => (.inr n :: read.1, read.2) := by
  have high := hexValue?_digitChar ⟨n / 16, by omega⟩
  have low := hexValue?_digitChar ⟨n % 16, by omega⟩
  have zero : hexValue? '0' = some 0 := rfl
  have whole : hex4? '0' '0' (Nat.digitChar (n / 16)) (Nat.digitChar (n % 16)) = some n := by
    simp only [hex4?, zero, high, low, Option.bind_eq_bind, Option.bind_some]
    exact congrArg some (by omega)
  rw [stringUnits?, whole]
  cases stringUnits? rest <;> rfl

theorem stringUnits?_plain {c : Char} (large : 32 ≤ c.toNat) (noQuote : c ≠ '\x22')
    (noBackslash : c ≠ '\\') (rest : List Char) :
    stringUnits? (c :: rest) = (stringUnits? rest).map fun read => (.inl c :: read.1, read.2) := by
  have plain : (decide (c.toNat < 32) || c == '\\') = false := by
    rw [Bool.or_eq_false_iff, decide_eq_false_iff_not, beq_eq_false_iff_ne]
    exact ⟨Nat.not_lt.mpr large, noBackslash⟩
  rw [stringUnits?, plain, if_neg Bool.false_ne_true]
  · cases stringUnits? rest <;> rfl
  · exact noQuote
  · intro _ _ _ _ _ same
    exact absurd same noBackslash
  · intro _ _ same
    exact absurd same noBackslash

theorem stringUnits?_escape (c : Char) (rest : List Char) :
    stringUnits? (escape c ++ rest) =
      (stringUnits? rest).map fun read => (unit c :: read.1, read.2) := by
  by_cases special : c ∈ ['\x22', '\\', '\x08', '\t', '\n', '\x0c', '\r']
  · simp only [List.mem_cons, List.not_mem_nil, or_false] at special
    rcases special with rfl | rfl | rfl | rfl | rfl | rfl | rfl <;>
      exact stringUnits?_letter rfl rest
  · simp only [List.mem_cons, List.not_mem_nil, or_false, not_or] at special
    obtain ⟨noQuote, noBackslash, noBackspace, noTab, noFeed, noForm, noReturn⟩ := special
    have named : c ∉ ['\x08', '\t', '\n', '\x0c', '\r'] := by
      simp only [List.mem_cons, List.not_mem_nil, or_false, not_or]
      exact ⟨noBackspace, noTab, noFeed, noForm, noReturn⟩
    simp only [escape, beq_iff_eq, noQuote, noBackslash, noBackspace, noTab, noFeed, noForm,
      noReturn, if_false]
    by_cases control : c.toNat < 32
    · rw [if_pos control, unit, if_pos ⟨control, named⟩]
      exact stringUnits?_number control rest
    · rw [if_neg control, unit, if_neg fun both => control both.1]
      exact stringUnits?_plain (Nat.not_lt.mp control) noQuote noBackslash rest

theorem stringUnits?_escapes (cs rest : List Char) :
    stringUnits? (cs.flatMap escape ++ '\x22' :: rest) = some (cs.map unit, rest) := by
  induction cs with
  | nil => rw [List.flatMap_nil, List.nil_append, stringUnits?, List.map_nil]
  | cons c cs ih =>
    rw [List.flatMap_cons, List.append_assoc, stringUnits?_escape, ih]
    rfl

theorem joinUnits?_number {n : Nat} (small : n < 0xD800) (rest : List (Char ⊕ Nat)) :
    joinUnits? (.inr n :: rest) = (joinUnits? rest).map (Char.ofNat n :: ·) := by
  have notHigh : (decide (0xD800 ≤ n) && decide (n ≤ 0xDBFF)) = false := by
    rw [decide_eq_false (Nat.not_le.mpr small), Bool.false_and]
  have notLow : (decide (0xDC00 ≤ n) && decide (n ≤ 0xDFFF)) = false := by
    rw [decide_eq_false (by omega), Bool.false_and]
  have notHalf : (decide (0xD800 ≤ n) && decide (n ≤ 0xDFFF)) = false := by
    rw [decide_eq_false (Nat.not_le.mpr small), Bool.false_and]
  rcases rest with _ | ⟨_ | low, rest⟩ <;>
    simp only [joinUnits?, notHigh, notLow, notHalf, Bool.false_eq_true, if_false]

theorem joinUnits?_unit (c : Char) (rest : List (Char ⊕ Nat)) :
    joinUnits? (unit c :: rest) = (joinUnits? rest).map (c :: ·) := by
  rw [unit]
  split
  · rename_i control
    rw [joinUnits?_number (by omega), Char.ofNat_toNat]
  · rw [joinUnits?]

theorem joinUnits?_units (cs : List Char) : joinUnits? (cs.map unit) = some cs := by
  induction cs with
  | nil => rfl
  | cons c cs ih => rw [List.map_cons, joinUnits?_unit, ih, Option.map_some]

end LoadBench.Json.Reader
