/-! The proleptic Gregorian calendar with a year zero. Days are counted from the first of January
of that year, so the day of a date and the date of a day are inverse to each other. -/
namespace ChatRooms.Calendar

structure Date where
  year : Int
  month : Nat
  day : Nat
  deriving DecidableEq, Repr

def isLeap (year : Int) : Bool :=
  year % 4 = 0 && (year % 100 ≠ 0 || year % 400 = 0)

def yearStart (year : Int) : Int :=
  365 * year + (year + 3) / 4 - (year + 99) / 100 + (year + 399) / 400

def monthLengths (leap : Bool) : List Nat :=
  [31, if leap then 29 else 28, 31, 30, 31, 30, 31, 31, 30, 31, 30, 31]

def monthLength (year : Int) (month : Nat) : Nat :=
  if month = 0 then 0 else (monthLengths (isLeap year)).getD (month - 1) 0

def Date.isValid (date : Date) : Bool :=
  1 ≤ date.day && date.day ≤ monthLength date.year date.month

def Date.dayNumber (date : Date) : Int :=
  yearStart date.year + ((monthLengths (isLeap date.year)).take (date.month - 1)).foldr Nat.add 0 +
    (date.day - 1 : Nat)

/-- The year of a day. The mean length of a year gives it up to one, the starts of the years
around the estimate decide. -/
def yearOf (day : Int) : Int :=
  let estimate := day * 400 / 146097
  if day < yearStart estimate then estimate - 1
  else if yearStart (estimate + 1) ≤ day then estimate + 1
  else estimate

def monthAndDay (month : Nat) : List Nat → Nat → Nat × Nat
  | [], offset => (month, offset + 1)
  | length :: rest, offset =>
      if offset < length then (month, offset + 1)
      else monthAndDay (month + 1) rest (offset - length)

def dateOf (day : Int) : Date :=
  let year := yearOf day
  let (month, inMonth) :=
    monthAndDay 1 (monthLengths (isLeap year)) (day - yearStart year).toNat
  ⟨year, month, inMonth⟩

def epoch : Int := 719528

end ChatRooms.Calendar
