import ChatRooms.Json.Double
import ChatRooms.Proofs.Text.Digits
import Mathlib.Tactic.Ring

/-! Every number below the largest power of ten in the table is let through, however many digits it
has: rounding adds at most one part in 2 ^ 53, and the digits that are taken in never make more than
all of them do. -/
namespace ChatRooms.Json

open Text (isDigit digitsValue)

theorem nearestDouble_le (value : Nat) :
    nearestDouble value * 2 ^ 53 ≤ value * (2 ^ 53 + 1) := by
  unfold nearestDouble
  generalize unit_eq : Nat.pow 2 (value.log2 - 52) = unit
  have parts : unit * (value / unit) + value % unit = value := Nat.div_add_mod value unit
  have positive : 0 < unit := unit_eq ▸ Nat.pow_pos (by decide)
  have excess : value % unit < unit := Nat.mod_lt value positive
  dsimp only
  rw [Nat.add_mul, Nat.one_mul, Nat.mul_comm (value / unit)]
  split
  · rename_i upward
    -- Only a number of more than 53 bits is rounded up.
    have long : 52 < value.log2 := by
      by_contra short
      have one : unit = 1 := by
        rw [← unit_eq, Nat.sub_eq_zero_of_le (Nat.le_of_not_lt short)]
      omega
    have nonzero : value ≠ 0 := by
      rintro rfl
      simp at long
    have large : unit * 2 ^ 52 ≤ value := by
      have power : unit * 2 ^ 52 = 2 ^ value.log2 := by
        rw [← unit_eq]
        exact Nat.pow_sub_mul_pow 2 long.le
      exact power ▸ Nat.log2_self_le nonzero
    have near : 2 * (unit * (value / unit) + unit) ≤ 2 * value + unit := by omega
    calc (unit * (value / unit) + unit) * 2 ^ 53
        = 2 * (unit * (value / unit) + unit) * 2 ^ 52 := by ring
      _ ≤ (2 * value + unit) * 2 ^ 52 := Nat.mul_le_mul_right _ near
      _ = value * 2 ^ 53 + unit * 2 ^ 52 := by ring
      _ ≤ value * (2 ^ 53 + 1) := by
          rw [Nat.mul_succ]
          exact Nat.add_le_add_left large _
  · exact Nat.mul_le_mul (Nat.mul_div_le value unit) (Nat.le_succ _)

example : nearestDouble (2 ^ 53 + 1) = 2 ^ 53 ∧ nearestDouble (2 ^ 53 + 3) = 2 ^ 53 + 4 := by
  decide +kernel

/-! Digits -/

theorem foldl_digits (value : Nat) (digits : List Char) :
    digits.foldl (fun value c => value * 10 + (c.toNat - '0'.toNat)) value =
      value * 10 ^ digits.length + digitsValue digits := by
  induction digits generalizing value with
  | nil => simp [digitsValue]
  | cons c rest ih =>
      rw [digitsValue, List.foldl_cons, List.foldl_cons, ih, ih (0 * 10 + _), List.length_cons,
        Nat.pow_succ, Nat.zero_mul, Nat.zero_add, Nat.add_mul, Nat.mul_assoc value,
        Nat.mul_comm 10, Nat.add_assoc]

theorem digitsValue_append (front back : List Char) :
    digitsValue (front ++ back) = digitsValue front * 10 ^ back.length + digitsValue back := by
  rw [digitsValue, List.foldl_append, foldl_digits]
  rfl

theorem digitsValue_cons (c : Char) (rest : List Char) :
    digitsValue (c :: rest) = (c.toNat - '0'.toNat) * 10 ^ rest.length + digitsValue rest := by
  rw [← foldl_digits, digitsValue, List.foldl_cons, Nat.zero_mul, Nat.zero_add]

theorem digit_le {c : Char} (digit : isDigit c = true) : c.toNat - '0'.toNat ≤ 9 := by
  simp only [isDigit, Bool.and_eq_true, decide_eq_true_eq, Char.le_def, UInt32.le_iff_toNat_le]
    at digit
  change 48 ≤ c.toNat ∧ c.toNat ≤ 57 at digit
  change c.toNat - 48 ≤ 9
  omega

variable {word : Nat} {digits left : List Char}

/-- The word and the digits that are left make the number that all the digits do. -/
theorem absorb_eq (word : Nat) (digits : List Char) :
    (absorb word digits).1 * 10 ^ (absorb word digits).2.length +
        digitsValue (absorb word digits).2 =
      word * 10 ^ digits.length + digitsValue digits := by
  induction digits generalizing word with
  | nil => rfl
  | cons c rest ih =>
      rw [absorb]
      split
      · rw [ih, digitsValue_cons, List.length_cons, Nat.pow_succ]
        ring
      · rfl

theorem absorb_full {c : Char} (remains : (absorb word digits).2 = c :: left) :
    wordBound ≤ (absorb word digits).1 * 10 + (c.toNat - '0'.toNat) := by
  induction digits generalizing word with
  | nil => cases remains
  | cons d rest ih =>
      rw [absorb] at remains ⊢
      split at remains
      · rename_i fits
        rw [if_pos fits]
        exact ih remains
      · rename_i full
        rw [if_neg full]
        cases remains
        exact Nat.le_of_not_lt full

theorem absorb_suffix (word : Nat) (digits : List Char) :
    (absorb word digits).2 <:+ digits := by
  induction digits generalizing word with
  | nil => exact List.suffix_rfl
  | cons c rest ih =>
      rw [absorb]
      split
      · exact (ih _).trans (List.suffix_cons c rest)
      · exact List.suffix_rfl

/-- A digit of the fraction that still fits is smaller than the one that did not, and takes its
place: no further one fits. -/
theorem absorb_after_full {c d : Char} {more : List Char} (digit : isDigit c = true)
    (full : wordBound ≤ word * 10 + (c.toNat - '0'.toNat))
    (fits : word * 10 + (d.toNat - '0'.toNat) < wordBound) :
    absorb word (d :: more) = (word * 10 + (d.toNat - '0'.toNat), more) := by
  have nine := digit_le digit
  have bound : wordBound = 18446744073709551616 := by decide
  rw [absorb, if_pos fits]
  cases more with
  | nil => rfl
  | cons e rest =>
      rw [absorb, if_neg (by omega)]

/-- What is taken in of a number, with as many zeros behind it as digits were left. -/
theorem significand_le {whole : List Char} (fraction : List Char)
    (digital : ∀ c ∈ whole, isDigit c = true) :
    ∃ zeros : Nat, (significand whole fraction).2 = (zeros : Int) - fraction.length ∧
      (significand whole fraction).1 * 10 ^ zeros ≤ digitsValue (whole ++ fraction) := by
  have upper := absorb_eq 0 whole
  rw [Nat.zero_mul, Nat.zero_add] at upper
  refine ⟨(absorb 0 whole).2.length + (absorb (absorb 0 whole).1 fraction).2.length,
    by simp [significand], ?_⟩
  rw [digitsValue_append, ← upper]
  change (absorb (absorb 0 whole).1 fraction).1 * _ ≤ _
  generalize taken_eq : (absorb 0 whole).1 = taken
  cases skipped_eq : (absorb 0 whole).2 with
  | nil =>
      have lower := absorb_eq taken fraction
      have none : digitsValue [] = 0 := rfl
      simp only [List.length_nil, Nat.zero_add, Nat.pow_zero, Nat.mul_one, none, Nat.add_zero]
      omega
  | cons c skipped =>
      have full := absorb_full skipped_eq
      rw [taken_eq] at full
      have digit : isDigit c = true :=
        digital c ((absorb_suffix 0 whole).subset (skipped_eq ▸ List.mem_cons_self))
      have whole_le : taken * 10 ^ (c :: skipped).length * 10 ^ fraction.length ≤
          (taken * 10 ^ (c :: skipped).length + digitsValue (c :: skipped)) *
            10 ^ fraction.length := Nat.mul_le_mul_right _ (Nat.le_add_right _ _)
      refine le_trans ?_ (Nat.le_add_right _ _)
      cases fraction with
      | nil => simp [absorb]
      | cons d more =>
          by_cases fits : taken * 10 + (d.toNat - '0'.toNat) < wordBound
          · rw [absorb_after_full digit full fits, digitsValue_cons]
            have less :
                taken * 10 + (d.toNat - '0'.toNat) ≤ taken * 10 + (c.toNat - '0'.toNat) := by
              omega
            calc (taken * 10 + (d.toNat - '0'.toNat)) * 10 ^ ((c :: skipped).length + more.length)
                ≤ (taken * 10 + (c.toNat - '0'.toNat)) *
                    10 ^ ((c :: skipped).length + more.length) := Nat.mul_le_mul_right _ less
              _ = (taken * 10 ^ (c :: skipped).length +
                    (c.toNat - '0'.toNat) * 10 ^ skipped.length) * 10 ^ (d :: more).length := by
                  rw [List.length_cons, List.length_cons, Nat.pow_add, Nat.pow_succ, Nat.pow_succ]
                  ring
              _ ≤ _ := Nat.mul_le_mul_right _ (by omega)
          · rw [absorb, if_neg fits, Nat.pow_add, ← Nat.mul_assoc]
            exact whole_le

/-! Size -/

theorem fitsDouble_of_lt {exponent shift : Int} (within : exponent ≤ maxExponent)
    (small : 0 ≤ exponent + shift → word * 10 ^ (exponent + shift).toNat < 10 ^ maxPower) :
    fitsDouble word exponent shift = true := by
  unfold fitsDouble
  split
  · rfl
  · rename_i nonzero
    split
    · rename_i long
      simp only [decide_eq_true_eq]
      omega
    · split
      · rfl
      · rename_i upward
        have small := small (Int.not_lt.mp upward)
        generalize (exponent + shift).toNat = power at small ⊢
        have least : 1 * 10 ^ power ≤ word * 10 ^ power :=
          Nat.mul_le_mul_right _ (Nat.one_le_iff_ne_zero.mpr nonzero)
        have low : power < maxPower := by
          rw [← Nat.pow_lt_pow_iff_right (by decide : 1 < 10)]
          omega
        have product := Nat.mul_le_mul (nearestDouble_le word) (nearestDouble_le (10 ^ power))
        have slack : 10 ^ maxPower * (2 ^ 53 + 1) ^ 2 < doubleBound * 2 ^ 106 := by
          decide +kernel
        have rounded : nearestDouble word * nearestDouble (10 ^ power) < doubleBound := by
          refine Nat.lt_of_mul_lt_mul_right (a := 2 ^ 106) ?_
          calc nearestDouble word * nearestDouble (10 ^ power) * 2 ^ 106
              = nearestDouble word * 2 ^ 53 * (nearestDouble (10 ^ power) * 2 ^ 53) := by ring
            _ ≤ word * (2 ^ 53 + 1) * (10 ^ power * (2 ^ 53 + 1)) := product
            _ = word * 10 ^ power * (2 ^ 53 + 1) ^ 2 := by ring
            _ ≤ 10 ^ maxPower * (2 ^ 53 + 1) ^ 2 := Nat.mul_le_mul_right _ small.le
            _ < _ := slack
        simp only [Bool.and_eq_true, decide_eq_true_eq]
        exact ⟨low.le, rounded⟩

end ChatRooms.Json
