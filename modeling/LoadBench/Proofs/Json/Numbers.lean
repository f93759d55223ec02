import LoadBench.Json.Printer
import LoadBench.Json.Reader
import LoadBench.Proofs.Decimal.Reading
import LoadBench.Proofs.Text.Numeral

namespace LoadBench.Json.Reader

open Text Decimal

/-- A text that does not continue a number in front of it. -/
def Stops (rest : List Char) : Prop :=
  ∀ c ∈ rest.head?, Numeral.isDigit c = false ∧ c ≠ '.' ∧ (c == 'e' || c == 'E') = false

variable {rest : List Char}

theorem takeDigits_stops (stops : Stops rest) (cs : List Char) :
    takeDigits (cs ++ rest) = ((takeDigits cs).1, (takeDigits cs).2 ++ rest) := by
  induction cs with
  | nil => exact takeDigits_append (List.forall_mem_nil _) fun c first => (stops c first).1
  | cons c cs ih =>
    simp only [takeDigits, Prod.mk.injEq] at ih
    cases digit : Numeral.isDigit c with
    | true => simp [takeDigits, digit, ih]
    | false => simp [takeDigits, digit]

theorem takeFraction?_stops (stops : Stops rest) {cs more : List Char} {fraction : List Char}
    (found : takeFraction? cs = some (fraction, more)) :
    takeFraction? (cs ++ rest) = some (fraction, more ++ rest) := by
  unfold takeFraction? at found
  split at found
  · rename_i cs
    rw [List.cons_append, takeFraction?, takeDigits_stops stops]
    dsimp only at found ⊢
    split at found
    · cases found
    · rename_i digits
      cases found
      rw [if_neg digits]
  · rename_i unpointed
    cases found
    rw [takeFraction?]
    intro later same
    cases cs with
    | nil => exact (stops '.' (congrArg List.head? same)).2.1 rfl
    | cons c cs =>
      cases same
      exact unpointed cs rfl

theorem startsExponent_stops (stops : Stops rest) (cs : List Char) :
    startsExponent (cs ++ rest) = startsExponent cs := by
  cases cs with
  | nil =>
    cases rest with
    | nil => rfl
    | cons c rest => exact (stops c rfl).2.2
  | cons c cs => rfl

theorem takeSign_append {c : Char} (cs rest : List Char) :
    takeSign (c :: cs ++ rest) = ((takeSign (c :: cs)).1, (takeSign (c :: cs)).2 ++ rest) := by
  unfold takeSign
  split <;> simp_all

theorem takeExponent?_stops (stops : Stops rest) {cs more : List Char} {exponent : Int}
    (found : takeExponent? cs = some (exponent, more)) :
    takeExponent? (cs ++ rest) = some (exponent, more ++ rest) := by
  cases cs with
  | nil =>
    cases found
    cases rest with
    | nil => rfl
    | cons c rest =>
      rw [List.nil_append, takeExponent?, (stops c rfl).2.2, if_neg Bool.false_ne_true]
  | cons c cs =>
    rw [takeExponent?] at found
    rw [List.cons_append, takeExponent?]
    split at found
    · rename_i letter
      rw [if_pos letter]
      cases cs with
      | nil => cases found
      | cons d cs =>
        rw [takeSign_append]
        dsimp only at found ⊢
        rw [takeDigits_stops stops]
        dsimp only at found ⊢
        split at found
        · cases found
        · rename_i digits
          cases found
          rw [if_neg digits]
    · rename_i other
      cases found
      rw [if_neg other]
      rfl

theorem unsigned?_stops (stops : Stops rest) {negative : Bool} {cs more : List Char} {d : Document}
    (found : unsigned? negative cs = some (d, more)) :
    unsigned? negative (cs ++ rest) = some (d, more ++ rest) := by
  rw [unsigned?] at found ⊢
  rw [takeDigits_stops stops]
  dsimp only at found ⊢
  split at found
  · cases found
  · rename_i whole
    rw [if_neg whole]
    obtain ⟨⟨fraction, after⟩, taken, found⟩ := Option.bind_eq_some_iff.mp found
    obtain ⟨⟨exponent, later⟩, scaled, found⟩ := Option.bind_eq_some_iff.mp found
    cases found
    simp only [takeFraction?_stops stops taken, takeExponent?_stops stops scaled,
      startsExponent_stops stops, Option.bind_eq_bind, Option.bind_some]
    rfl

theorem number?_stops (stops : Stops rest) {cs more : List Char} {d : Document}
    (found : number? cs = some (d, more)) : number? (cs ++ rest) = some (d, more ++ rest) := by
  unfold number? at found
  split at found
  · exact unsigned?_stops stops found
  · rename_i unsigned
    have same : number? (cs ++ rest) = unsigned? false (cs ++ rest) := by
      rw [number?]
      intro later minus
      cases cs with
      | nil => cases found
      | cons c cs =>
        cases minus
        exact unsigned cs rfl
    rw [same]
    exact unsigned?_stops stops found

theorem head_of_number? {cs more : List Char} {d : Document} (found : number? cs = some (d, more)) :
    ∃ c later, cs = c :: later ∧ (c = '-' ∨ Numeral.isDigit c = true) := by
  cases cs with
  | nil => cases found
  | cons c cs =>
    refine ⟨c, cs, rfl, ?_⟩
    by_cases minus : c = '-'
    · exact .inl minus
    · right
      by_contra other
      rw [number?, unsigned?, takeDigits, List.takeWhile_cons_of_neg other] at found
      · cases found
      · intro later same
        exact minus (List.cons.inj same).1

theorem unsigned?_digits (negative : Bool) (n : Nat) :
    unsigned? negative (Numeral.digits n) =
      some (numberDocument ⟨negative, Numeral.digits n, [], 0⟩ true, []) := by
  have taken : takeDigits (Numeral.digits n ++ []) = (Numeral.digits n, []) :=
    takeDigits_append (fun _ member => Numeral.isDigit_of_mem_digits member) (by simp)
  have proper : ((Numeral.digits n).isEmpty ||
      (Numeral.digits n).head? == some '0' && 1 < (Numeral.digits n).length) = false := by
    rw [Bool.or_eq_false_iff, Bool.and_eq_false_iff, List.isEmpty_eq_false_iff,
      beq_eq_false_iff_ne, decide_eq_false_iff_not]
    refine ⟨Numeral.digits_ne_nil n, ?_⟩
    by_cases several : 1 < (Numeral.digits n).length
    · exact .inl (Numeral.head?_digits several)
    · exact .inr several
  rw [List.append_nil] at taken
  rw [unsigned?, taken]
  dsimp only
  rw [proper]
  rfl

theorem number?_intText {n : Int} (least : -2 ^ 63 ≤ n) (most : n ≤ Numeral.wordMax) :
    number? (intText n) = some (.int n, []) := by
  cases n with
  | ofNat n =>
    obtain ⟨c, cs, split, digit⟩ := Numeral.digits_eq_cons n
    have unsigned : ∀ rest, Numeral.digits n = '-' :: rest → False := by
      rintro rest same
      rw [split, List.cons.injEq] at same
      rw [same.1] at digit
      cases digit
    have small : n ≤ Numeral.wordMax := Int.ofNat_le.mp most
    rw [intText, number?, unsigned?_digits]
    · simp [numberDocument, Numeral.value_digits, small]
    · exact unsigned
  | negSucc n =>
    have small : n + 1 ≤ 2 ^ 63 := by omega
    rw [intText, number?, unsigned?_digits]
    simp [numberDocument, Numeral.value_digits, small, Int.negSucc_eq]

end LoadBench.Json.Reader
