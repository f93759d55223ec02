import LoadBench.Text.Utf8

namespace LoadBench.Text.Utf8

theorem lead_two : ∀ n : Fin 32, 2 ≤ n.val →
    lead (UInt8.ofNat (n + 0xC0)) = some (0x80, 0xBF, 1) := by
  decide

theorem lead_three : ∀ n : Fin 16, lead (UInt8.ofNat (n + 0xE0)) =
    some (if n.val = 0 then 0xA0 else 0x80, if n.val = 13 then 0x9F else 0xBF, 2) := by
  decide

theorem lead_four : ∀ n : Fin 5, lead (UInt8.ofNat (n + 0xF0)) =
    some (if n.val = 0 then 0x90 else 0x80, if n.val = 4 then 0x8F else 0xBF, 3) := by
  decide

def tail (n : Nat) : UInt8 := UInt8.ofNat (n % 0x40 + 0x80)

theorem toNat_tail (n : Nat) : (tail n).toNat = n % 0x40 + 0x80 :=
  UInt8.toNat_ofNat_of_lt' (show _ < 256 by omega)

theorem tailBits_tail (n : Nat) : tailBits (tail n) = n % 0x40 := by
  rw [tailBits, toNat_tail]
  omega

theorem isTail_tail (n : Nat) : isTail (tail n) = true := by
  rw [isTail, Bool.and_eq_true, decide_eq_true_eq, decide_eq_true_eq, UInt8.le_iff_toNat_le,
    UInt8.le_iff_toNat_le, toNat_tail]
  constructor
  · exact Nat.le_add_left 0x80 _
  · change n % 0x40 + 0x80 ≤ 0xBF
    omega

variable {a b : UInt8} {lo hi : UInt8} {rest : Bytes}

theorem scalars_one (small : a.toNat < 0x80) :
    scalars (a :: rest) = some (Char.ofNat a.toNat) :: scalars rest := by
  rw [scalars, if_pos (UInt8.lt_iff_toNat_lt.mpr small)]

theorem scalars_two (large : ¬ a < 0x80) (led : lead a = some (lo, hi, 1)) (low : lo ≤ b)
    (high : b ≤ hi) :
    scalars (a :: b :: rest) =
      some (Char.ofNat (a.toNat % 32 * 64 + tailBits b)) :: scalars rest := by
  rw [scalars, if_neg large]
  simp [led, low, high]

theorem scalars_three (large : ¬ a < 0x80) (led : lead a = some (lo, hi, 2)) (low : lo ≤ b)
    (high : b ≤ hi) (n : Nat) :
    scalars (a :: b :: tail n :: rest) =
      some (Char.ofNat ((a.toNat % 16 * 64 + tailBits b) * 64 + n % 0x40)) :: scalars rest := by
  rw [scalars, if_neg large]
  simp [led, low, high, isTail_tail, tailBits_tail]

theorem scalars_four (large : ¬ a < 0x80) (led : lead a = some (lo, hi, 3)) (low : lo ≤ b)
    (high : b ≤ hi) (m n : Nat) :
    scalars (a :: b :: tail m :: tail n :: rest) =
      some (Char.ofNat (((a.toNat % 8 * 64 + tailBits b) * 64 + m % 0x40) * 64 + n % 0x40)) ::
        scalars rest := by
  rw [scalars, if_neg large]
  simp [led, low, high, isTail_tail, tailBits_tail]

theorem toNat_first {n mark : Nat} (small : n + mark < 256) :
    (UInt8.ofNat (n + mark)).toNat = n + mark :=
  UInt8.toNat_ofNat_of_lt' small

theorem first_large {n mark : Nat} (small : n + mark < 256) (marked : 0x80 ≤ mark) :
    ¬ UInt8.ofNat (n + mark) < 0x80 := by
  rw [UInt8.lt_iff_toNat_lt, toNat_first small]
  exact Nat.not_lt.mpr (Nat.le_trans marked (Nat.le_add_left mark n))

theorem le_tail {n : Nat} {low : UInt8} (least : low.toNat ≤ n % 0x40 + 0x80) : low ≤ tail n := by
  rw [UInt8.le_iff_toNat_le, toNat_tail]
  exact least

theorem tail_le {n : Nat} {high : UInt8} (most : n % 0x40 + 0x80 ≤ high.toNat) :
    tail n ≤ high := by
  rw [UInt8.le_iff_toNat_le, toNat_tail]
  exact most

/-- A second byte is at least what follows a first byte, also one with a bound of its own. -/
theorem ite_le_tail {special : Prop} [Decidable special] {n : Nat} {low : UInt8}
    (least : special → low.toNat ≤ n % 0x40 + 0x80) :
    (if special then low else 0x80) ≤ tail n := by
  split
  · rename_i holds
    exact le_tail (least holds)
  · exact le_tail (Nat.le_add_left 0x80 _)

theorem tail_le_ite {special : Prop} [Decidable special] {n : Nat} {high : UInt8}
    (most : special → n % 0x40 + 0x80 ≤ high.toNat) :
    tail n ≤ if special then high else 0xBF := by
  split
  · rename_i holds
    exact tail_le (most holds)
  · exact tail_le (show _ ≤ 0xBF by omega)

theorem scalars_utf8EncodeChar (c : Char) (rest : Bytes) :
    scalars (String.utf8EncodeChar c ++ rest) = some c :: scalars rest := by
  have valid : c.toNat < 0xD800 ∨ 0xDFFF < c.toNat ∧ c.toNat < 0x110000 := c.valid
  have same {n : Nat} (equal : n = c.toNat) : some (Char.ofNat n) = some c := by
    rw [equal, Char.ofNat_toNat]
  have bytes : String.utf8EncodeChar c =
      if c.toNat ≤ 0x7F then [UInt8.ofNat c.toNat]
      else if c.toNat ≤ 0x7FF then [UInt8.ofNat (c.toNat / 64 % 0x20 + 0xC0), tail c.toNat]
      else if c.toNat ≤ 0xFFFF then
        [UInt8.ofNat (c.toNat / 4096 % 0x10 + 0xE0), tail (c.toNat / 64), tail c.toNat]
      else [UInt8.ofNat (c.toNat / 262144 % 0x08 + 0xF0), tail (c.toNat / 4096),
        tail (c.toNat / 64), tail c.toNat] := rfl
  rw [bytes]
  -- One case for each length of a code.
  generalize c.toNat = n at valid same
  split
  · rename_i one
    have byte : (UInt8.ofNat n).toNat = n := UInt8.toNat_ofNat_of_lt' (show _ < 256 by omega)
    rw [List.singleton_append, scalars_one (by omega), same byte]
  split
  · rename_i two
    have led := lead_two ⟨n / 64 % 0x20, by omega⟩ (show 2 ≤ n / 64 % 0x20 by omega)
    have value : (n / 64 % 0x20 + 0xC0) % 32 * 64 + n % 0x40 = n := by omega
    rw [List.cons_append, List.singleton_append,
      scalars_two (first_large (by omega) (by decide)) led (le_tail (Nat.le_add_left _ _))
        (tail_le (show _ ≤ 0xBF by omega)),
      toNat_first (by omega), tailBits_tail, same value]
  split
  · rename_i three
    have led := lead_three ⟨n / 4096 % 0x10, by omega⟩
    have value : ((n / 4096 % 0x10 + 0xE0) % 16 * 64 + n / 64 % 0x40) * 64 + n % 0x40 = n := by
      omega
    have low : (if n / 4096 % 0x10 = 0 then 0xA0 else 0x80) ≤ tail (n / 64) :=
      ite_le_tail fun _ => show 0xA0 ≤ _ by omega
    have high : tail (n / 64) ≤ (if n / 4096 % 0x10 = 13 then 0x9F else 0xBF) :=
      tail_le_ite fun _ => show _ ≤ 0x9F by omega
    rw [List.cons_append, List.cons_append, List.singleton_append,
      scalars_three (first_large (by omega) (by decide)) led low high, toNat_first (by omega),
      tailBits_tail, same value]
  · rename_i four
    have led := lead_four ⟨n / 262144 % 0x08, by omega⟩
    have value : (((n / 262144 % 0x08 + 0xF0) % 8 * 64 + n / 4096 % 0x40) * 64 +
        n / 64 % 0x40) * 64 + n % 0x40 = n := by omega
    have low : (if n / 262144 % 0x08 = 0 then 0x90 else 0x80) ≤ tail (n / 4096) :=
      ite_le_tail fun _ => show 0x90 ≤ _ by omega
    have high : tail (n / 4096) ≤ (if n / 262144 % 0x08 = 4 then 0x8F else 0xBF) :=
      tail_le_ite fun _ => show _ ≤ 0x8F by omega
    rw [List.cons_append, List.cons_append, List.cons_append, List.singleton_append,
      scalars_four (first_large (by omega) (by decide)) led low high, toNat_first (by omega),
      tailBits_tail, same value]

theorem toList_loop (bytes : ByteArray) (i : Nat) (done : Bytes) :
    ByteArray.toList.loop bytes i done = done.reverse ++ bytes.data.toList.drop i := by
  fun_induction ByteArray.toList.loop bytes i done with
  | case1 i done inside ih =>
    have here : i < bytes.data.toList.length := by
      rw [Array.length_toList]
      exact inside
    rw [ih, List.drop_eq_getElem_cons here, List.reverse_cons, List.append_assoc,
      List.singleton_append, ByteArray.get!, Array.getElem_toList, getElem!_pos bytes.data i inside]
  | case2 i done outside =>
    have past : bytes.data.toList.length ≤ i := by
      rw [Array.length_toList]
      exact Nat.not_lt.mp outside
    rw [List.drop_eq_nil_of_le past, List.append_nil]

theorem encode_eq (text : String) : encode text = text.toList.flatMap String.utf8EncodeChar := by
  have bytes : text.toUTF8 = (text.toList.flatMap String.utf8EncodeChar).toByteArray :=
    String.utf8Encode_toList.symm
  rw [encode, ByteArray.toList, toList_loop, bytes, List.toList_data_toByteArray]
  rfl

theorem scalars_flatMap (cs : List Char) :
    scalars (cs.flatMap String.utf8EncodeChar) = cs.map some := by
  induction cs with
  | nil => rw [List.flatMap_nil, scalars, List.map_nil]
  | cons c rest ih => rw [List.flatMap_cons, scalars_utf8EncodeChar, ih, List.map_cons]

theorem decode?_encode (text : String) : decode? (encode text) = some text := by
  have read : (text.toList.map some).mapM id = some text.toList := by
    rw [List.mapM_map]
    exact (List.mapM_pure (m := Option) (f := id)).trans (congrArg some (List.map_id _))
  rw [decode?, encode_eq, scalars_flatMap, read, Option.map_some, String.ofList_toList]

end LoadBench.Text.Utf8
