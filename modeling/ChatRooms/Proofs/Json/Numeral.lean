import ChatRooms.Json.Reader
import ChatRooms.Proofs.Json.Double
import ChatRooms.Proofs.Timestamp.RoundTrip

/-! Numbers as JSON writes them, and that each of them is read as what it says if it is not too
large. -/
namespace ChatRooms.Json

open Text (isDigit digitsValue)
open Timestamp (EndsNumber takeWhile_digits dropWhile_of_ends)

structure Exponent where
  mark : Char
  sign : List Char
  digits : List Char
  marked : mark = 'e' ∨ mark = 'E'
  signed : sign = [] ∨ sign = ['+'] ∨ sign = ['-']
  written : digits ≠ []
  digital : ∀ c ∈ digits, isDigit c = true

namespace Exponent

def text (exponent : Exponent) : List Char :=
  exponent.mark :: (exponent.sign ++ exponent.digits)

def power (exponent : Exponent) : Int :=
  if exponent.sign = ['-'] then -(digitsValue exponent.digits : Int)
  else digitsValue exponent.digits

end Exponent

/-- A number as it is written: zero or digits that do not begin with one, the digits of its fraction
if it has one, and an exponent or none. -/
structure Numeral where
  negative : Bool
  whole : List Char
  fraction : List Char
  scaled : Option Exponent
  started : whole = ['0'] ∨ ∃ c rest, whole = c :: rest ∧ c ≠ '0'
  digital : ∀ c ∈ whole ++ fraction, isDigit c = true

namespace Numeral

def sign (numeral : Numeral) : List Char :=
  if numeral.negative then ['-'] else []

def point (numeral : Numeral) : List Char :=
  if numeral.fraction.isEmpty then [] else '.' :: numeral.fraction

def mark (numeral : Numeral) : List Char :=
  numeral.scaled.elim [] Exponent.text

def text (numeral : Numeral) : List Char :=
  numeral.sign ++ numeral.whole ++ numeral.point ++ numeral.mark

def coefficient (numeral : Numeral) : Nat :=
  digitsValue (numeral.whole ++ numeral.fraction)

def power (numeral : Numeral) : Int :=
  numeral.scaled.elim 0 Exponent.power

def scale (numeral : Numeral) : Int :=
  numeral.power - numeral.fraction.length

def IsFinite (numeral : Numeral) : Prop :=
  fitsDouble (significand numeral.whole numeral.fraction).1 numeral.power
    (significand numeral.whole numeral.fraction).2 = true

/-- What the number is read as. Only an integer other than minus zero keeps its value. -/
def number (numeral : Numeral) : Number :=
  if numeral.fraction.isEmpty && numeral.scaled.isNone then
    if !numeral.negative then .integer (digitsValue numeral.whole)
    else if digitsValue numeral.whole = 0 then .decimal "-0"
    else .integer (-(digitsValue numeral.whole : Int))
  else .decimal (String.ofList numeral.text)

end Numeral

/-! ## Size -/

/-- A number below the largest power of ten in the table is finite, if its exponent is read as a
number. -/
theorem Numeral.isFinite_of_lt {number : Numeral} (within : number.power ≤ maxExponent)
    (small : number.coefficient * 10 ^ number.scale.toNat <
      10 ^ maxPower * 10 ^ (-number.scale).toNat) : number.IsFinite := by
  have digital : ∀ c ∈ number.whole, isDigit c = true := fun c listed =>
    number.digital c (List.mem_append_left _ listed)
  obtain ⟨zeros, shift, least⟩ := significand_le number.fraction digital
  have size : number.power + (significand number.whole number.fraction).2 =
      number.scale + zeros := by
    rw [shift, Numeral.scale]
    omega
  refine fitsDouble_of_lt within fun upward => ?_
  rw [size] at upward ⊢
  change _ ≤ number.coefficient at least
  generalize (significand number.whole number.fraction).1 = word at least ⊢
  generalize number.scale = scale at small upward ⊢
  generalize 10 ^ maxPower = bound at small ⊢
  rcases le_total 0 scale with large | fractional
  · have none : (-scale).toNat = 0 := by omega
    rw [none, Nat.pow_zero, Nat.mul_one] at small
    have both : (scale + zeros).toNat = zeros + scale.toNat := by omega
    rw [both, Nat.pow_add, ← Nat.mul_assoc]
    exact (Nat.mul_le_mul_right _ least).trans_lt small
  · have none : scale.toNat = 0 := by omega
    rw [none, Nat.pow_zero, Nat.mul_one] at small
    have both : zeros = (scale + zeros).toNat + (-scale).toNat := by omega
    rw [both, Nat.pow_add, ← Nat.mul_assoc] at least
    exact Nat.lt_of_mul_lt_mul_right (least.trans_lt small)

/-! ## Reading -/

def EndsNumeral (text : List Char) : Prop :=
  ∀ c ∈ text.head?, isDigit c = false ∧ c ≠ '.' ∧ c ≠ 'e' ∧ c ≠ 'E'

variable {rest : List Char} {number : Numeral}

theorem EndsNumeral.digits (ends : EndsNumeral rest) : EndsNumber rest :=
  fun c first => (ends c first).1

-- A digit is neither of the signs, nor any mark.
theorem digit_ne {c mark : Char} (digit : isDigit c = true) (other : isDigit mark = false) :
    c ≠ mark := by
  rintro rfl
  rw [digit] at other
  contradiction

theorem exponent_spelled (scaled : Exponent) (ends : EndsNumber rest) :
    exponent (scaled.sign ++ scaled.digits ++ rest) =
      .ok ((scaled.power, scaled.sign ++ scaled.digits), rest) := by
  obtain ⟨mark, sign, digits, -, signed, written, digital⟩ := scaled
  obtain ⟨c, later, rfl⟩ := List.exists_cons_of_ne_nil written
  have digit := digital c List.mem_cons_self
  have run := takeWhile_digits (c :: later) digital ends
  have left : ((c :: later) ++ rest).dropWhile isDigit = rest := by
    rw [List.dropWhile_append_of_pos digital, dropWhile_of_ends ends]
  rw [List.cons_append] at run left
  have plus : c ≠ '+' := digit_ne digit rfl
  have minus : c ≠ '-' := digit_ne digit rfl
  rcases signed with rfl | rfl | rfl
  · simp [exponent, digit, run, left, plus, minus, Exponent.power]
  · simp [exponent, digit, run, left, Exponent.power]
  · simp [exponent, digit, run, left, Exponent.power]

-- What a fraction or an exponent closes.
theorem decimal_spelled (finite : number.IsFinite) (rest : List Char) :
    decimal number.sign number.whole number.fraction number.mark number.power rest =
      .ok (.decimal (String.ofList number.text), rest) := by
  rw [Numeral.IsFinite] at finite
  rw [decimal]
  dsimp only
  rw [if_pos finite]
  rfl

theorem integral_spelled (finite : number.IsFinite) (plain : number.fraction = [])
    (unscaled : number.scaled = none) (rest : List Char) :
    afterWhole.integral number.sign number.whole rest = .ok (number.number, rest) := by
  have fits : fitsDouble (significand number.whole []).1 0 (significand number.whole []).2 := by
    have unscaled : number.power = 0 := by simp [Numeral.power, unscaled]
    rwa [Numeral.IsFinite, plain, unscaled] at finite
  rw [afterWhole.integral]
  dsimp only
  rw [if_pos fits]
  cases negative : number.negative with
  | false => simp [Numeral.number, Numeral.sign, plain, unscaled, negative]
  | true =>
      by_cases zero : digitsValue number.whole = 0 <;>
        simp [Numeral.number, Numeral.sign, plain, unscaled, negative, zero]

theorem afterWhole_spelled (finite : number.IsFinite) (ends : EndsNumeral rest) :
    afterWhole number.sign number.whole number.fraction (number.mark ++ rest) =
      .ok (number.number, rest) := by
  have closes := decimal_spelled finite rest
  rw [Numeral.power] at closes
  cases scaled : number.scaled with
  | some power =>
      have whole : number.number = .decimal (String.ofList number.text) := by
        simp [Numeral.number, scaled]
      have mark : number.mark = power.text := by simp [Numeral.mark, scaled]
      rw [scaled, Option.elim_some, mark] at closes
      have read := exponent_spelled power ends.digits
      rw [mark, Exponent.text, List.cons_append, afterWhole, if_pos power.marked, read]
      simpa only [whole, bind, Except.bind, Exponent.text] using closes
  | none =>
      have mark : number.mark = [] := by simp [Numeral.mark, scaled]
      rw [scaled, Option.elim_none, mark] at closes
      rw [mark, List.nil_append]
      have onward (rest : List Char) (closes : decimal number.sign number.whole number.fraction []
            0 rest = .ok (.decimal (String.ofList number.text), rest)) :
          (if number.fraction.isEmpty then afterWhole.integral number.sign number.whole rest
            else decimal number.sign number.whole number.fraction [] 0 rest) =
              .ok (number.number, rest) := by
        split
        · rename_i plain
          exact integral_spelled finite (List.isEmpty_iff.mp plain) scaled rest
        · rename_i broken
          rw [closes]
          simp [Numeral.number, broken]
      cases rest with
      | nil => exact onward [] closes
      | cons c tail =>
          obtain ⟨-, -, small, large⟩ := ends c rfl
          rw [afterWhole, if_neg (by simp [small, large])]
          exact onward (c :: tail) closes

theorem mark_ends (number : Numeral) (ends : EndsNumeral rest) :
    EndsNumber (number.mark ++ rest) ∧ ∀ tail, number.mark ++ rest ≠ '.' :: tail := by
  cases scaled : number.scaled with
  | none =>
      have mark : number.mark = [] := by simp [Numeral.mark, scaled]
      rw [mark, List.nil_append]
      refine ⟨ends.digits, ?_⟩
      rintro tail rfl
      exact (ends '.' rfl).2.1 rfl
  | some power =>
      have mark : number.mark = power.text := by simp [Numeral.mark, scaled]
      rw [mark, Exponent.text, List.cons_append]
      rcases power.marked with small | large
      · rw [small]
        exact ⟨Timestamp.endsNumber_cons rfl _, by simp⟩
      · rw [large]
        exact ⟨Timestamp.endsNumber_cons rfl _, by simp⟩

theorem withFraction_spelled (finite : number.IsFinite) (ends : EndsNumeral rest) :
    withFraction number.sign number.whole (number.point ++ (number.mark ++ rest)) =
      .ok (number.number, rest) := by
  have after := afterWhole_spelled finite ends
  obtain ⟨stops, pointless⟩ := mark_ends number ends
  cases broken : number.fraction with
  | nil =>
      rw [broken] at after
      rw [Numeral.point, broken]
      unfold withFraction
      split
      · rename_i tail point
        exact absurd point (pointless tail)
      · exact after
  | cons c tail =>
      have digital : ∀ c ∈ number.fraction, isDigit c = true := fun c listed =>
        number.digital c (List.mem_append_right _ listed)
      have run := takeWhile_digits number.fraction digital stops
      have left : (number.fraction ++ (number.mark ++ rest)).dropWhile isDigit =
          number.mark ++ rest := by
        rw [List.dropWhile_append_of_pos digital, dropWhile_of_ends stops]
      have point : number.point = '.' :: number.fraction := by simp [Numeral.point, broken]
      rw [point, List.cons_append, withFraction, run, left, after, broken]
      rfl

theorem point_ends (number : Numeral) (ends : EndsNumeral rest) :
    EndsNumber (number.point ++ (number.mark ++ rest)) := by
  unfold Numeral.point
  split
  · exact (mark_ends number ends).1
  · exact Timestamp.endsNumber_cons rfl _

theorem unsigned_spelled (finite : number.IsFinite) (ends : EndsNumeral rest) :
    ∃ c tail, number.whole ++ (number.point ++ (number.mark ++ rest)) = c :: tail ∧
      isDigit c = true ∧
      (if c = '0' then
          if startsWithDigit tail then .error .malformed else withFraction number.sign ['0'] tail
        else if isDigit c then
          withFraction number.sign ((c :: tail).takeWhile isDigit)
            ((c :: tail).dropWhile isDigit)
        else .error .malformed) = .ok (number.number, rest) := by
  have after := withFraction_spelled finite ends
  have stops := point_ends number ends
  have digital : ∀ c ∈ number.whole, isDigit c = true := fun c listed =>
    number.digital c (List.mem_append_left _ listed)
  rcases number.started with zero | ⟨c, tail, whole, other⟩
  · rw [zero] at after ⊢
    refine ⟨'0', number.point ++ (number.mark ++ rest), rfl, rfl, ?_⟩
    have alone : startsWithDigit (number.point ++ (number.mark ++ rest)) = false := by
      cases following : number.point ++ (number.mark ++ rest) with
      | nil => rfl
      | cons c tail =>
          rw [following] at stops
          exact stops c rfl
    rw [if_pos rfl, alone]
    exact after
  · have run := takeWhile_digits number.whole digital stops
    have left : (number.whole ++ (number.point ++ (number.mark ++ rest))).dropWhile isDigit =
        number.point ++ (number.mark ++ rest) := by
      rw [List.dropWhile_append_of_pos digital, dropWhile_of_ends stops]
    have digit := digital c (by simp [whole])
    refine ⟨c, tail ++ (number.point ++ (number.mark ++ rest)), by rw [whole]; rfl, digit, ?_⟩
    rw [whole] at run left after
    rw [if_neg other, if_pos digit, ← List.cons_append, run, left]
    exact after

/-- A number that is not too large is read as what it says, whatever follows it. -/
theorem numeral_spelled (finite : number.IsFinite) (ends : EndsNumeral rest) :
    numeral (number.text ++ rest) = .ok (number.number, rest) := by
  obtain ⟨c, tail, unsigned, digit, read⟩ := unsigned_spelled finite ends
  have text : number.text ++ rest = number.sign ++ (c :: tail) := by
    rw [← unsigned]
    simp [Numeral.text]
  rw [text]
  cases negative : number.negative with
  | true =>
      have sign : number.sign = ['-'] := by simp [Numeral.sign, negative]
      rw [sign] at read ⊢
      exact read
  | false =>
      have sign : number.sign = [] := by simp [Numeral.sign, negative]
      rw [sign] at read ⊢
      have unsigned (later : List Char) : c :: tail ≠ '-' :: later := by
        intro head
        have minus : c ≠ '-' := digit_ne digit rfl
        exact minus (List.cons.inj head).1
      rw [List.nil_append, numeral]
      · exact read
      · exact unsigned

end ChatRooms.Json
