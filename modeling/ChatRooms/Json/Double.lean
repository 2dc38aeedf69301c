/-! How large a number may be. Its digits are taken in as a word of 64 bits, as many as it holds,
and the word is multiplied by a power of ten from a table. Word, power and product are each rounded
to a double, and the number is refused if the product is not finite. -/
namespace ChatRooms.Json

/-- The double nearest to a number, of two that are as near the even one. -/
def nearestDouble (value : Nat) : Nat :=
  let unit := Nat.pow 2 (value.log2 - 52)
  let whole := value / unit
  let excess := value % unit
  if unit < 2 * excess ∨ (unit = 2 * excess ∧ whole % 2 = 1) then (whole + 1) * unit
  else whole * unit

/-- The least product that rounds beyond the largest double. -/
def doubleBound : Nat :=
  Nat.pow 2 1024 - Nat.pow 2 970

def wordBound : Nat :=
  Nat.pow 2 64

def absorb (word : Nat) : List Char → Nat × List Char
  | [] => (word, [])
  | c :: rest =>
      let next := word * 10 + (c.toNat - '0'.toNat)
      if next < wordBound then absorb next rest else (word, c :: rest)

/-- The word of a number and how many tens it is short of the number. Integer digits that are left
count, and so do digits of the fraction that are taken in, even after integer digits were left. -/
def significand (whole fraction : List Char) : Nat × Int :=
  let (upper, skipped) := absorb 0 whole
  let (word, ignored) := absorb upper fraction
  (word, (skipped.length + ignored.length : Int) - fraction.length)

def maxExponent : Nat :=
  Nat.pow 2 31 - 1

def maxPower : Nat := 308

/-- Whether the word, scaled by an exponent and a shift of its digits, is a finite double. Scaling
down never fails. -/
def fitsDouble (word : Nat) (exponent shift : Int) : Bool :=
  if word = 0 then true
  else if maxExponent < exponent.natAbs then exponent < 0
  else if exponent + shift < 0 then true
  else
    let power := (exponent + shift).toNat
    power ≤ maxPower &&
      nearestDouble word * nearestDouble (Nat.pow 10 power) < doubleBound

end ChatRooms.Json
