import EventBroker.Text.Decimal

/-!
Numerals read back. A written number consists of digits only and has at least one of
them, and reading its digits gives the number again, so that different numbers have
different numerals. A word is read from any of its spellings, and from nothing else.
-/
namespace EventBroker.Decimal

theorem digitByte_toNat (n : Nat) : (digitByte n).toNat = 48 + n % 10 := by
  have h : 48 + n % 10 < 256 := by omega
  simp only [digitByte, UInt8.toNat_ofNat']
  omega

theorem isDigit_digitByte (n : Nat) : Bytes.isDigit (digitByte n) = true := by
  have h := digitByte_toNat n
  simp only [Bytes.isDigit, Bool.and_eq_true, decide_eq_true_eq, UInt8.le_iff_toNat_le]
  constructor
  · change 48 ≤ (digitByte n).toNat
    omega
  · change (digitByte n).toNat ≤ 57
    omega

theorem digitValue_digitByte (n : Nat) : digitValue (digitByte n) = n % 10 := by
  unfold digitValue
  rw [digitByte_toNat]
  omega

theorem ofDigits_append_digit (s : Bytes) (n : Nat) :
    ofDigits (s ++ [digitByte n]) = 10 * ofDigits s + n % 10 := by
  simp only [ofDigits, List.foldl_append, List.foldl_cons, List.foldl_nil, digitValue_digitByte]

/-- A number has fewer digits than there are places if it is below their count. -/
theorem ofDigits_encodeWithin (places n : Nat) (hn : n < places) :
    ofDigits (encodeWithin places n) = n := by
  induction places generalizing n with
  | zero => omega
  | succ places ih =>
    unfold encodeWithin
    by_cases h : n < 10
    · rw [if_pos h]
      have hd := ofDigits_append_digit [] n
      have h0 : ofDigits [] = 0 := rfl
      rw [List.nil_append, h0] at hd
      omega
    · have hdiv : n / 10 < places := by omega
      rw [if_neg h, ofDigits_append_digit, ih (n / 10) hdiv]
      omega

theorem isDigit_of_mem_encodeWithin (places n : Nat) (b : UInt8)
    (hb : b ∈ encodeWithin places n) : Bytes.isDigit b = true := by
  induction places generalizing n with
  | zero => simp [encodeWithin] at hb
  | succ places ih =>
    unfold encodeWithin at hb
    split at hb
    · rw [List.mem_singleton.mp hb]
      exact isDigit_digitByte n
    · rcases List.mem_append.mp hb with hfront | hlast
      · exact ih (n / 10) hfront
      · rw [List.mem_singleton.mp hlast]
        exact isDigit_digitByte n

theorem isDigit_of_mem_encode (n : Nat) (b : UInt8) (hb : b ∈ encode n) :
    Bytes.isDigit b = true :=
  isDigit_of_mem_encodeWithin (n + 1) n b hb

theorem encode_ne_nil (n : Nat) : encode n ≠ [] := by
  unfold encode encodeWithin
  split <;> simp

theorem ofDigits_encode (n : Nat) : ofDigits (encode n) = n :=
  ofDigits_encodeWithin (n + 1) n (Nat.lt_succ_self n)

theorem natural_encode (n : Nat) : natural (encode n) = some n := by
  have hall : (encode n).all Bytes.isDigit = true :=
    List.all_eq_true.mpr (isDigit_of_mem_encode n)
  rw [natural, if_pos ⟨encode_ne_nil n, hall⟩, ofDigits_encode]

theorem encode_injective (m n : Nat) (h : encode m = encode n) : m = n := by
  rw [← ofDigits_encode m, h, ofDigits_encode]

/-- A spelling of a number below 2 ^ 64: its digits, with zeros ahead of them, a plus sign, or
both. -/
def Spells (s : Bytes) (n : Nat) : Prop :=
  ∃ digits, (s = digits ∨ s = 43 :: digits) ∧ digits ≠ [] ∧ (∀ b ∈ digits, 48 ≤ b ∧ b ≤ 57) ∧
    digits.foldl (fun n b => 10 * n + (b.toNat - 48)) 0 = n ∧ n < 18446744073709551616

theorem natural_bind_eq_some_iff (digits : Bytes) (n : Nat) :
    (natural digits).bind belowWordLimit = some n ↔
      digits ≠ [] ∧ (∀ b ∈ digits, 48 ≤ b ∧ b ≤ 57) ∧ ofDigits digits = n ∧ n < wordLimit := by
  have hdigits : digits.all Bytes.isDigit = true ↔ ∀ b ∈ digits, 48 ≤ b ∧ b ≤ 57 := by
    simp only [List.all_eq_true, Bytes.isDigit, Bool.and_eq_true, decide_eq_true_eq]
  have hword : ∀ m, belowWordLimit m = some n ↔ m = n ∧ n < wordLimit := by
    intro m
    rw [belowWordLimit, Option.ite_none_right_eq_some, Option.some_inj]
    constructor
    · rintro ⟨hm, rfl⟩
      exact ⟨rfl, hm⟩
    · rintro ⟨rfl, hm⟩
      exact ⟨hm, rfl⟩
  simp only [natural, hdigits, Option.bind_eq_some_iff, Option.ite_none_right_eq_some, hword]
  constructor
  · rintro ⟨m, ⟨⟨hne, hall⟩, ⟨⟩⟩, hm, hn⟩
    exact ⟨hne, hall, hm, hn⟩
  · rintro ⟨hne, hall, hm, hn⟩
    exact ⟨_, ⟨⟨hne, hall⟩, rfl⟩, hm, hn⟩

theorem word_eq_some_iff (s : Bytes) (n : Nat) : word s = some n ↔ Spells s n := by
  unfold word
  split
  · next digits =>
    rw [natural_bind_eq_some_iff]
    constructor
    · exact fun h => ⟨digits, Or.inr rfl, h⟩
    · rintro ⟨_, rfl | hs, hne, hall, h⟩
      · -- The plus sign is not a digit.
        exact absurd (hall 43 List.mem_cons_self).1 (by decide)
      · obtain rfl := (List.cons.inj hs).2
        exact ⟨hne, hall, h⟩
  · next hunsigned =>
    rw [natural_bind_eq_some_iff]
    constructor
    · exact fun h => ⟨s, Or.inl rfl, h⟩
    · rintro ⟨digits, rfl | hs, h⟩
      · exact h
      · exact absurd hs (hunsigned digits)

end EventBroker.Decimal
