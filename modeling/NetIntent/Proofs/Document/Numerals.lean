import NetIntent.Document.Fields

/-! Unquoted numerals. The decimal digits of a number, as they are usually written, are read as that number
by every field that can hold it. -/
namespace NetIntent.Document

/-- Digits are read as the number that they make up. -/
theorem foldlM_digits {cs : List Char} (digits : ∀ c ∈ cs, c.isDigit = true) (n : Nat) :
    cs.foldlM (fun n c => (Numeral.digitOf? 10 c).map (10 * n + ·)) n = some (Nat.ofDigitChars 10 cs n) := by
  induction cs generalizing n with
  | nil => rfl
  | cons c rest ih =>
    obtain ⟨own, others⟩ := List.forall_mem_cons.mp digits
    have bound : c.toNat - '0'.toNat < 10 := by
      have upper := (Char.isDigit_iff_toNat.mp own).2
      have zero : '0'.toNat = 48 := rfl
      have nine : '9'.toNat = 57 := rfl
      omega
    have digit : Numeral.digitOf? 10 c = some (c.toNat - '0'.toNat) := by
      simp only [Numeral.digitOf?, own, ↓reduceIte, Option.bind_eq_bind, Option.bind_some, if_pos bound]
    rw [List.foldlM_cons, digit, Nat.ofDigitChars_cons, ← ih others]
    rfl

/-- No numeral of a positive number begins with a zero, which would stand for another base. -/
theorem head_toDigits {n : Nat} (positive : 0 < n) : ∃ c rest, Nat.toDigits 10 n = c :: rest ∧ c ≠ '0' := by
  induction n using Nat.strongRecOn with
  | ind n ih =>
    by_cases small : n < 10
    · refine ⟨n.digitChar, [], Nat.toDigits_of_lt_base small, ?_⟩
      rw [ne_eq, Nat.digitChar_eq_zero]
      omega
    · obtain ⟨c, rest, more, nonzero⟩ := ih (n / 10) (by omega) (by omega)
      rw [Nat.toDigits_of_base_le (by decide) (by omega), more]
      exact ⟨c, rest ++ [(n % 10).digitChar], rfl, nonzero⟩

theorem plainNat?_repr (n : Nat) : plainNat? n.repr = some n := by
  obtain rfl | positive := Nat.eq_zero_or_pos n
  · rfl
  · have digits : ∀ c ∈ Nat.toDigits 10 n, c.isDigit = true :=
      fun c => Nat.isDigit_of_mem_toDigits (by decide) (by decide)
    have folded := foldlM_digits digits 0
    obtain ⟨c, rest, more, nonzero⟩ := head_toDigits positive
    have unsigned : c ≠ '+' := by
      rintro rfl
      exact absurd (digits '+' (more ▸ List.mem_cons_self)) (by decide)
    rw [Nat.ofDigitChars_ten_toDigits, more] at folded
    rw [plainNat?, Nat.toList_repr, more]
    simpa [unsigned, nonzero, natOf?] using folded

/-- Every number of 64 bits can be given, as a numeral or as the number that is written. -/
theorem word?_repr (n : UInt64) : word? (.plain n.toNat.repr) = some n := by
  simp [word?, nat?, plainNat?_repr, n.toNat_lt_size]

theorem word?_int (n : UInt64) : word? (.number (.int n.toNat)) = some n := by
  have found : nat? UInt64.size (.number (.int n.toNat)) = some n.toNat := by
    simp [nat?, n.toNat_lt_size]
  simp [word?, found]

end NetIntent.Document
