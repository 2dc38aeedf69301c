import ChatRooms.Calendar
import Mathlib.Tactic.Common

/-! The day of a date and the date of a day are inverse to each other: the year found for a day is
the one whose days include it, and the month the one in which the days before it run out. -/
namespace ChatRooms.Calendar

def daysIn (lengths : List Nat) : Nat := lengths.foldr Nat.add 0

@[simp] theorem daysIn_nil : daysIn [] = 0 := rfl

@[simp] theorem daysIn_cons (length : Nat) (rest : List Nat) :
    daysIn (length :: rest) = length + daysIn rest := rfl

theorem daysIn_months (leap : Bool) :
    daysIn (monthLengths leap) = if leap then 366 else 365 := by
  cases leap <;> rfl

-- The starts of two years that follow each other are as far apart as the earlier one is long.
theorem yearStart_succ (year : Int) :
    yearStart (year + 1) = yearStart year + daysIn (monthLengths (isLeap year)) := by
  rw [daysIn_months]
  simp only [yearStart, isLeap]
  by_cases fourth : year % 4 = 0 <;> by_cases century : year % 100 = 0 <;>
    by_cases cycle : year % 400 = 0 <;> simp [fourth, century, cycle] <;> omega

theorem yearOf_bounds (day : Int) :
    yearStart (yearOf day) ≤ day ∧ day < yearStart (yearOf day + 1) := by
  -- A cycle of 400 years has 146097 days, so the estimate is off by less than two.
  have above : yearStart (day * 400 / 146097 - 1) ≤ day := by
    simp only [yearStart]
    omega
  have below : day < yearStart (day * 400 / 146097 + 1 + 1) := by
    simp only [yearStart]
    omega
  simp only [yearOf]
  split
  · rename_i late
    exact ⟨above, by simpa using late⟩
  · split
    · rename_i early
      exact ⟨early, below⟩
    · rename_i late early
      exact ⟨by omega, by omega⟩

-- The month is found in the list of the months left, with its day and the days before it.
theorem monthAndDay_spec (month : Nat) (lengths : List Nat) (offset : Nat)
    (inside : offset < daysIn lengths) :
    ∃ passed, (monthAndDay month lengths offset).1 = month + passed ∧
      1 ≤ (monthAndDay month lengths offset).2 ∧
      (monthAndDay month lengths offset).2 ≤ lengths.getD passed 0 ∧
      daysIn (lengths.take passed) + ((monthAndDay month lengths offset).2 - 1) = offset := by
  induction lengths generalizing month offset with
  | nil => simp at inside
  | cons length rest ih =>
      simp only [daysIn_cons] at inside
      by_cases here : offset < length
      · refine ⟨0, ?_⟩
        simp only [monthAndDay, here, ↓reduceIte, List.getD_cons_zero, List.take_zero,
          daysIn_nil]
        omega
      · obtain ⟨passed, same, low, high, total⟩ := ih (month + 1) (offset - length) (by omega)
        refine ⟨passed + 1, ?_⟩
        simp only [monthAndDay, here, ↓reduceIte, List.getD_cons_succ, List.take_succ_cons,
          daysIn_cons]
        exact ⟨by omega, low, high, by omega⟩

/-- The date of a day is one that the calendar has, and its day is the day. -/
theorem dateOf_spec (day : Int) :
    (dateOf day).isValid = true ∧ (dateOf day).dayNumber = day := by
  obtain ⟨after, before⟩ := yearOf_bounds day
  rw [yearStart_succ] at before
  obtain ⟨passed, month, low, high, total⟩ :=
    monthAndDay_spec 1 (monthLengths (isLeap (yearOf day)))
      (day - yearStart (yearOf day)).toNat (by omega)
  have year_same : (dateOf day).year = yearOf day := rfl
  have month_same : (dateOf day).month = 1 + passed := month
  have day_same : (dateOf day).day = (monthAndDay 1 (monthLengths (isLeap (yearOf day)))
    (day - yearStart (yearOf day)).toNat).2 := rfl
  constructor
  · simp only [Date.isValid, monthLength, year_same, month_same, day_same, Bool.and_eq_true,
      decide_eq_true_eq]
    refine ⟨low, ?_⟩
    rw [if_neg (by omega), Nat.add_sub_cancel_left]
    exact high
  · have counted : ((monthLengths (isLeap (yearOf day))).take passed).foldr Nat.add 0 +
        ((monthAndDay 1 (monthLengths (isLeap (yearOf day)))
          (day - yearStart (yearOf day)).toNat).2 - 1) =
        (day - yearStart (yearOf day)).toNat := total
    simp only [Date.dayNumber, year_same, month_same, day_same, Nat.add_sub_cancel_left]
    omega

theorem monthLength_bound (leap : Bool) :
    ∀ index : Fin 12, (monthLengths leap).getD index 0 ≤ 31 := by
  cases leap <;> decide

theorem bounds_of_valid {date : Date} (valid : date.isValid = true) :
    date.month ≤ 12 ∧ date.day ≤ 31 := by
  have within : 1 ≤ date.day ∧ date.day ≤ monthLength date.year date.month := by
    simpa [Date.isValid] using valid
  unfold monthLength at within
  split at within
  · omega
  · by_cases listed : date.month - 1 < 12
    · have bound := monthLength_bound (isLeap date.year) ⟨date.month - 1, listed⟩
      dsimp only at bound
      omega
    -- There is no thirteenth month.
    · have beyond : (monthLengths (isLeap date.year)).length ≤ date.month - 1 := by
        simpa [monthLengths] using Nat.le_of_not_lt listed
      rw [List.getD_eq_getElem?_getD, List.getElem?_eq_none beyond, Option.getD_none] at within
      omega

end ChatRooms.Calendar
