import ChatRooms.Proofs.Calendar
import ChatRooms.Proofs.Text.Digits
import ChatRooms.Timestamp.Printer
import ChatRooms.Timestamp.Reader

/-! What the RFC 3339 text of an instant is read back as: each number, mark and fraction that is
printed is read as what it was, whatever follows it, and the date, the time of day and the leap
second marked by the second 60 determine the instant. A leap second within a minute is written as
the second after it and read as that. -/
namespace ChatRooms.Timestamp

open Text

variable {rest : List Char}

def EndsNumber (text : List Char) : Prop :=
  ∀ c ∈ text.head?, isDigit c = false

theorem takeWhile_digits (digits : List Char) (all : ∀ c ∈ digits, isDigit c = true)
    (ends : EndsNumber rest) : (digits ++ rest).takeWhile isDigit = digits := by
  rw [List.takeWhile_append_of_pos all]
  cases rest with
  | nil => simp
  | cons c tail => simp [ends c (by simp)]

theorem dropWhile_of_ends (ends : EndsNumber rest) : rest.dropWhile isDigit = rest := by
  cases rest with
  | nil => rfl
  | cons c tail => simp [ends c (by simp)]

theorem endsNumber_cons {c : Char} (mark : isDigit c = false) (tail : List Char) :
    EndsNumber (c :: tail) := by
  intro first same
  cases same
  exact mark

-- A number is read whole if it has as many digits as are allowed, or something else follows.
theorem readNumber_digits {limit : Nat} {digits : List Char}
    (all : ∀ c ∈ digits, isDigit c = true) (some_digit : digits ≠ [])
    (fits : digits.length = limit ∨ (digits.length ≤ limit ∧ EndsNumber rest)) :
    readNumber limit (digits ++ rest) = some (digitsValue digits, rest) := by
  have whole : ((digits ++ rest).take limit).takeWhile isDigit = digits := by
    rcases fits with full | ⟨short, ends⟩
    · rw [← full, List.take_left]
      have at_end : EndsNumber [] := by simp [EndsNumber]
      simpa using takeWhile_digits digits all at_end
    · rw [List.take_append, List.take_of_length_le short]
      apply takeWhile_digits digits all
      intro c first
      cases rest with
      | nil => simp at first
      | cons d tail =>
          cases left : limit - digits.length with
          | zero => simp [left] at first
          | succ more =>
              simp only [left, List.take_succ_cons, List.head?_cons] at first
              exact ends c first
  simp [readNumber, whole, some_digit]

theorem readNumber_padded {limit width value : Nat}
    (fits : (padded width value).length = limit ∨
      ((padded width value).length ≤ limit ∧ EndsNumber rest)) :
    readNumber limit (padded width value ++ rest) = some (value, rest) := by
  rw [readNumber_digits (fun _ => isDigit_of_mem_padded) (padded_ne_nil width value) fits,
    digitsValue_padded]

theorem isBlank_of_isDigit {c : Char} (digit : isDigit c = true) : isBlank c = false := by
  simp only [isDigit, Bool.and_eq_true, decide_eq_true_eq, Char.le_def, UInt32.le_iff_toNat_le]
    at digit
  have low : 48 ≤ c.toNat := digit.1
  have high : c.toNat ≤ 57 := digit.2
  simp only [isBlank, Bool.or_eq_false_iff, Bool.and_eq_false_iff, decide_eq_false_iff_not,
    beq_eq_false_iff_ne]
  omega

theorem padded_cons (width value : Nat) :
    ∃ c tail, padded width value = c :: tail ∧ isDigit c = true := by
  cases printed : padded width value with
  | nil => exact absurd printed (padded_ne_nil width value)
  | cons c tail => exact ⟨c, tail, rfl, isDigit_of_mem_padded (by rw [printed]; simp)⟩

theorem trimStart_padded (width value : Nat) :
    trimStart (padded width value ++ rest) = padded width value ++ rest := by
  obtain ⟨c, tail, printed, digit⟩ := padded_cons width value
  simp [trimStart, printed, isBlank_of_isDigit digit]

theorem readField_padded {value : Nat} (fits : value < 100) :
    readField (padded 2 value ++ rest) = some (value, rest) := by
  rw [readField, trimStart_padded]
  exact readNumber_padded (Or.inl (length_padded (by decide) fits))

theorem readField_tensAndOnes {value : Nat} (fits : value < 100) :
    readField (tensAndOnes value ++ rest) = some (value, rest) := by
  rw [← padded_two fits, readField_padded fits]

theorem readMark_self {mark : Char} (visible : isBlank mark = false) :
    readMark mark (mark :: rest) = some rest := by
  simp [readMark, trimStart, visible]

theorem readYear_minus (text : List Char) : readYear ('-' :: text) =
    (readNumber text.length text).map fun read => (-(read.1 : Int), read.2) := rfl

theorem readYear_plus (text : List Char) : readYear ('+' :: text) =
    (readNumber text.length text).map fun read => ((read.1 : Int), read.2) := rfl

-- A year outside the four-digit years is read up to the hyphen after it.
theorem readYear_yearChars (year : Int) (ends : EndsNumber rest) :
    readYear (yearChars year ++ rest) = some (year, rest) := by
  have magnitude : (padded 4 year.natAbs).length ≤ (padded 4 year.natAbs ++ rest).length := by
    simp
  have read := readNumber_padded (Or.inr ⟨magnitude, ends⟩)
  unfold yearChars
  split
  · rename_i plain
    have short : (padded 4 year.toNat).length = 4 := by
      apply length_padded (by decide)
      have bound : year.toNat < 10000 := by omega
      exact bound
    have same : ((year.toNat : Nat) : Int) = year := by omega
    obtain ⟨c, tail, printed, digit⟩ := padded_cons 4 year.toNat
    have unsigned : c ≠ '-' ∧ c ≠ '+' := by
      constructor <;> rintro rfl <;> contradiction
    have read : readNumber 4 (padded 4 year.toNat ++ rest) = some (year.toNat, rest) :=
      readNumber_padded (Or.inl short)
    rw [readYear, trimStart_padded]
    rw [printed] at read ⊢
    simp only [List.cons_append] at read ⊢
    split
    · rename_i head
      exact absurd (List.cons.inj head).1 unsigned.1
    · rename_i head
      exact absurd (List.cons.inj head).1 unsigned.2
    · simp [read, same]
  · split
    · rename_i early
      have same : -((year.natAbs : Nat) : Int) = year := by omega
      rw [List.cons_append, readYear_minus, read, Option.map_some, same]
    · rename_i late
      have same : ((year.natAbs : Nat) : Int) = year := by omega
      rw [List.cons_append, readYear_plus, read, Option.map_some, same]

theorem readDate_dateChars {date : Calendar.Date} (month : date.month < 100)
    (day : date.day < 100) : readDate (dateChars date ++ rest) = some (date, rest) := by
  have hyphen : isDigit '-' = false := by decide
  have visible : isBlank '-' = false := by decide
  simp only [readDate, dateChars, List.append_assoc, List.cons_append]
  rw [readYear_yearChars _ (endsNumber_cons hyphen _)]
  simp [readMark_self visible, readField_tensAndOnes month, readField_tensAndOnes day]

-- A fraction is printed with as many groups of three digits as it takes, and read in nanoseconds.
theorem readFraction_fractionChars {nanosecond : Nat} (small : nanosecond < 1000000000)
    (ends : EndsNumber rest) (pointless : rest.head? ≠ some '.') :
    readFraction (fractionChars nanosecond ++ rest) = some (nanosecond, rest) := by
  have read {groups value : Nat} (some_group : 0 < groups) (few : groups ≤ 9)
      (fits : value < Nat.pow 10 groups) : readFraction ('.' :: (padded groups value ++ rest)) =
        some (value * Nat.pow 10 (9 - groups), rest) := by
    have width := length_padded some_group fits
    simp only [readFraction]
    rw [readNumber_padded (Or.inr ⟨by omega, ends⟩)]
    have seen : (padded groups value ++ rest).length - rest.length = groups := by
      simp [width]
    simp only [Option.bind_eq_bind, Option.bind_some, Option.pure_def, seen,
      dropWhile_of_ends ends]
  unfold fractionChars
  split
  · rename_i none_left
    cases rest with
    | nil => simp [readFraction, none_left]
    | cons c tail =>
        have other : c ≠ '.' := by simpa using pointless
        simp [readFraction, none_left, other]
  · split
    · rename_i thousandths
      have total : nanosecond / 1000000 * Nat.pow 10 (9 - 3) = nanosecond := by
        show nanosecond / 1000000 * 1000000 = nanosecond
        omega
      have fits : nanosecond / 1000000 < Nat.pow 10 3 := by
        show nanosecond / 1000000 < 1000
        omega
      rw [List.cons_append, read (by decide) (by decide) fits, total]
    · split
      · rename_i millionths
        have total : nanosecond / 1000 * Nat.pow 10 (9 - 6) = nanosecond := by
          show nanosecond / 1000 * 1000 = nanosecond
          omega
        have fits : nanosecond / 1000 < Nat.pow 10 6 := by
          show nanosecond / 1000 < 1000000
          omega
        rw [List.cons_append, read (by decide) (by decide) fits, total]
      · have total : nanosecond * Nat.pow 10 (9 - 9) = nanosecond := Nat.mul_one nanosecond
        rw [List.cons_append, read (by decide) (by decide) small, total]

def shownSecond (at_ : Timestamp) : Nat :=
  at_.secondOfDay % 60 + if at_.isLeap then 1 else 0

def timeOfDay (at_ : Timestamp) : TimeOfDay where
  hour := at_.secondOfDay / 3600
  minute := at_.secondOfDay / 60 % 60
  second := at_.shownSecond
  nanosecond := at_.nanosecond % 1000000000

theorem shownSecond_le (at_ : Timestamp) : at_.shownSecond ≤ 60 := by
  unfold shownSecond
  split <;> omega

theorem timeOfDay_isValid (at_ : Timestamp) : at_.timeOfDay.isValid = true := by
  have hour : at_.secondOfDay / 3600 ≤ 23 := by
    rw [secondOfDay]
    omega
  have minute : at_.secondOfDay / 60 % 60 ≤ 59 := by omega
  simp [TimeOfDay.isValid, timeOfDay, hour, minute, at_.shownSecond_le]

theorem written_nanosecond (at_ : Timestamp) :
    (if at_.isLeap then at_.nanosecond - 1000000000 else at_.nanosecond) =
      at_.nanosecond % 1000000000 := by
  have fraction := at_.fraction
  simp only [isLeap, decide_eq_true_eq]
  split <;> omega

theorem timeChars_eq (at_ : Timestamp) : at_.timeChars =
    tensAndOnes at_.timeOfDay.hour ++ ':' :: tensAndOnes at_.timeOfDay.minute ++
      ':' :: tensAndOnes at_.timeOfDay.second := by
  have hour : at_.secondOfDay / 60 / 60 = at_.secondOfDay / 3600 := Nat.div_div_eq_div_mul _ 60 60
  have second : (if at_.isLeap then at_.secondOfDay % 60 + 1 else at_.secondOfDay % 60) =
      at_.timeOfDay.second := by
    simp only [timeOfDay, shownSecond]
    split <;> rfl
  simp only [timeChars, split, second, hour, timeOfDay]

theorem readTime_timeChars (at_ : Timestamp) (ends : EndsNumber rest)
    (pointless : rest.head? ≠ some '.') :
    readTime (at_.timeChars ++ (fractionChars (at_.nanosecond % 1000000000) ++ rest)) =
      some (at_.timeOfDay, rest) := by
  have valid := at_.timeOfDay_isValid
  simp only [TimeOfDay.isValid, Bool.and_eq_true, decide_eq_true_eq] at valid
  obtain ⟨⟨hour, minute⟩, second⟩ := valid
  have visible : isBlank ':' = false := by decide
  have small : at_.nanosecond % 1000000000 < 1000000000 := Nat.mod_lt _ (by decide)
  simp only [timeChars_eq, readTime, List.append_assoc, List.cons_append]
  rw [readField_tensAndOnes (by omega)]
  simp only [Option.bind_eq_bind, Option.bind_some, readMark_self visible,
    readField_tensAndOnes (show at_.timeOfDay.minute < 100 by omega),
    readField_tensAndOnes (show at_.timeOfDay.second < 100 by omega),
    readFraction_fractionChars small ends pointless, Option.pure_def]
  rfl

/-- An instant of a leap second stands at the end of a minute, as every instant does that is made of
a count of seconds. -/
def IsRegular (at_ : Timestamp) : Prop :=
  at_.isLeap = true → at_.second % 60 = 59

instance (at_ : Timestamp) : Decidable at_.IsRegular :=
  inferInstanceAs (Decidable (_ → _))

theorem ofUnix?_isRegular {second : Int} {nanosecond : Nat} {at_ : Timestamp}
    (made : ofUnix? second nanosecond = some at_) : at_.IsRegular := by
  unfold ofUnix? at made
  split at made
  · split at made
    · split at made
      · split at made
        · rename_i counted
          cases made
          simp only [IsRegular, isLeap, decide_eq_true_eq]
          omega
        · contradiction
      · contradiction
    · contradiction
  · contradiction

theorem ofUnix?_self {at_ : Timestamp} (regular : at_.IsRegular) :
    ofUnix? at_.second at_.nanosecond = some at_ := by
  have counted : at_.nanosecond < 1000000000 ∨ at_.second % 60 = 59 := by
    simp only [IsRegular, isLeap, decide_eq_true_eq] at regular
    omega
  simp [ofUnix?, at_.not_early, at_.not_late, at_.fraction, counted]

-- The date and the time of day that are printed are those of the instant alone.
theorem ofLocal?_self {at_ : Timestamp} (regular : at_.IsRegular) :
    ofLocal? at_.date at_.timeOfDay 0 = some at_ := by
  obtain ⟨valid, day⟩ := Calendar.dateOf_spec (at_.second / 86400 + Calendar.epoch)
  have sixty : at_.timeOfDay.second = 60 ↔ at_.isLeap = true := by
    simp only [IsRegular, timeOfDay, shownSecond, secondOfDay] at regular ⊢
    split <;> simp_all <;> omega
  have here : (at_.date.dayNumber - Calendar.epoch) * 86400 +
      ((at_.timeOfDay.hour * 3600 + at_.timeOfDay.minute * 60 + min at_.timeOfDay.second 59 : Nat) :
        Int) = at_.second := by
    rw [date, day]
    simp only [IsRegular, timeOfDay, shownSecond, secondOfDay] at regular ⊢
    split <;> simp_all <;> omega
  have nanosecond : at_.timeOfDay.nanosecond +
      (if at_.timeOfDay.second = 60 then 1000000000 else 0) = at_.nanosecond := by
    have fraction := at_.fraction
    simp only [sixty]
    simp only [timeOfDay, isLeap, decide_eq_true_eq]
    split <;> omega
  have start : ofUnix? at_.second 0 ≠ none := by
    simp [ofUnix?, at_.not_early, at_.not_late]
  obtain ⟨_, started⟩ := Option.ne_none_iff_exists'.mp start
  have date_valid : at_.date.isValid = true := valid
  simp only [ofLocal?, date_valid, at_.timeOfDay_isValid, here, nanosecond]
  simp [started, ofUnix?_self regular]

theorem ofText?_text_of_isRegular {at_ : Timestamp} (regular : at_.IsRegular) :
    ofText? at_.text = some at_ := by
  obtain ⟨valid, _⟩ := Calendar.dateOf_spec (at_.second / 86400 + Calendar.epoch)
  have bounds : at_.date.month ≤ 12 ∧ at_.date.day ≤ 31 := Calendar.bounds_of_valid valid
  have ends : EndsNumber ['Z'] := endsNumber_cons (by decide) []
  have time := readTime_timeChars at_ ends (by decide)
  have offset : readOffset ['Z'] = some (0, []) := rfl
  have nothing_left : (trimStart []).isEmpty = true := rfl
  have apart (text : List Char) : readSeparator ('T' :: text) = some text := rfl
  simp only [ofText?, text, String.toList_ofList, ofChars?, chars, written_nanosecond,
    List.append_assoc, List.cons_append]
  rw [readDate_dateChars (by omega) (by omega)]
  simp only [Option.bind_eq_bind, Option.bind_some, apart, time, offset, nothing_left, ↓reduceIte,
    ofLocal?_self regular]

theorem isRegular_iff_ofUnix? (at_ : Timestamp) :
    at_.IsRegular ↔ ∃ second nanosecond, ofUnix? second nanosecond = some at_ :=
  ⟨fun regular => ⟨_, _, ofUnix?_self regular⟩, fun ⟨_, _, made⟩ => ofUnix?_isRegular made⟩

-- A text is read by way of a count of seconds.
theorem ofText?_isRegular {text : String} {at_ : Timestamp} (read : ofText? text = some at_) :
    at_.IsRegular := by
  simp only [ofText?, ofChars?, Option.bind_eq_bind, Option.bind_eq_some_iff] at read
  obtain ⟨⟨date, _⟩, _, _, _, ⟨time, _⟩, _, ⟨offset, _⟩, _, found⟩ := read
  split at found
  · unfold ofLocal? at found
    split at found
    · obtain ⟨_, _, made⟩ := Option.bind_eq_some_iff.mp found
      exact ofUnix?_isRegular made
    · contradiction
  · contradiction

theorem isRegular_iff_ofText? (at_ : Timestamp) :
    at_.IsRegular ↔ ∃ text, ofText? text = some at_ :=
  ⟨fun regular => ⟨_, ofText?_text_of_isRegular regular⟩, fun ⟨_, read⟩ => ofText?_isRegular read⟩

theorem not_isRegular {at_ : Timestamp} (irregular : ¬at_.IsRegular) :
    1000000000 ≤ at_.nanosecond ∧ at_.second % 60 ≠ 59 := by
  simpa [IsRegular, isLeap] using irregular

/-- The instant that the text of an instant names. A leap second within a minute is written like the
second after it. -/
def asWritten (at_ : Timestamp) : Timestamp :=
  if regular : at_.IsRegular then at_ else
    { second := at_.second + 1
      nanosecond := at_.nanosecond - 1000000000
      not_early := Int.le_add_one at_.not_early
      not_late := by
        have within := (not_isRegular regular).2
        have late := at_.not_late
        omega
      fraction := Nat.lt_of_le_of_lt (Nat.sub_le _ _) at_.fraction }

theorem asWritten_of_isRegular {at_ : Timestamp} (regular : at_.IsRegular) :
    at_.asWritten = at_ := dif_pos regular

theorem asWritten_isRegular (at_ : Timestamp) : at_.asWritten.IsRegular := by
  unfold asWritten
  split
  · assumption
  · have fraction := at_.fraction
    simp only [IsRegular, isLeap, decide_eq_true_eq]
    omega

theorem asWritten_eq_iff (at_ : Timestamp) : at_.asWritten = at_ ↔ at_.IsRegular :=
  ⟨fun same => same ▸ at_.asWritten_isRegular, asWritten_of_isRegular⟩

theorem chars_asWritten (at_ : Timestamp) : at_.asWritten.chars = at_.chars := by
  unfold asWritten
  split
  · rfl
  · rename_i irregular
    obtain ⟨leap, within⟩ := not_isRegular irregular
    have fraction := at_.fraction
    have leaps : at_.isLeap = true := decide_eq_true leap
    have plain : ¬1000000000 ≤ at_.nanosecond - 1000000000 := by omega
    have day : (at_.second + 1) / 86400 = at_.second / 86400 := by omega
    have minute : ((at_.second + 1) % 86400).toNat / 60 = (at_.second % 86400).toNat / 60 := by
      omega
    have second : ((at_.second + 1) % 86400).toNat % 60 = (at_.second % 86400).toNat % 60 + 1 := by
      omega
    simp only [chars, timeChars, split, date, secondOfDay, leaps, ↓reduceIte]
    simp only [isLeap, plain, decide_false, Bool.false_eq_true, ↓reduceIte, day, minute, second]

/-- The text of an instant is read as the instant that it names. -/
theorem ofText?_text (at_ : Timestamp) : ofText? at_.text = some at_.asWritten := by
  rw [← ofText?_text_of_isRegular at_.asWritten_isRegular, text, text, chars_asWritten]

/-- A third of a second into a leap second at second 4 of a minute. -/
def stray : Timestamp :=
  ⟨1435708564, 1333000000, by decide, by decide, by decide⟩

end ChatRooms.Timestamp
