import ChatRooms.Text.Digits

/-! Printed numbers are read back: zeros in front change nothing of the number that a run of digits
names, and a number below the power of ten of the width fills the width exactly. In a field of two
these are its tens and its ones. -/
namespace ChatRooms.Text

theorem digitsValue_eq (digits : List Char) :
    digitsValue digits = Nat.ofDigitChars 10 digits 0 := by
  simp only [digitsValue, Nat.ofDigitChars_eq_foldl, Nat.mul_comm]

theorem digitsValue_padded (width value : Nat) : digitsValue (padded width value) = value := by
  simp [digitsValue_eq, padded, Nat.ofDigitChars_append, Nat.ofDigitChars_replicate_zero]

theorem isDigit_of_mem_padded {width value : Nat} {c : Char} (listed : c ∈ padded width value) :
    isDigit c = true := by
  rcases List.mem_append.mp listed with zero | digit
  · rw [List.eq_of_mem_replicate zero]
    rfl
  · have decimal := Nat.isDigit_of_mem_toDigits (by decide) (by decide) digit
    simpa [isDigit, Char.isDigit, Char.le_def] using decimal

theorem padded_ne_nil (width value : Nat) : padded width value ≠ [] := by
  simp [padded, Nat.toDigits_ne_nil]

theorem length_padded {width value : Nat} (wide : 0 < width) (fits : value < Nat.pow 10 width) :
    (padded width value).length = width := by
  have bound := (Nat.length_toDigits_le_iff (b := 10) (by decide) wide).mpr fits
  simp only [padded, List.length_append, List.length_replicate]
  omega

theorem padded_two {value : Nat} (fits : value < 100) : padded 2 value = tensAndOnes value := by
  unfold padded tensAndOnes
  rw [Nat.toDigits_eq_if (by decide)]
  split
  · rename_i single
    have tens : value / 10 = 0 := by omega
    have ones : value % 10 = value := by omega
    rw [tens, ones]
    rfl
  · have tens : value / 10 < 10 := by omega
    rw [Nat.toDigits_of_lt_base tens]
    rfl

theorem tensAndOnes_inj {first second : Nat} (fits : first < 100) (other_fits : second < 100) :
    tensAndOnes first = tensAndOnes second ↔ first = second := by
  refine ⟨fun same => ?_, fun same => same ▸ rfl⟩
  rw [← padded_two fits, ← padded_two other_fits] at same
  rw [← digitsValue_padded 2 first, same, digitsValue_padded]

end ChatRooms.Text
