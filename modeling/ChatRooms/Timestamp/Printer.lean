import ChatRooms.Text.Digits
import ChatRooms.Timestamp.Basic

/-! RFC 3339 in UTC, with as many digits of the fraction as it takes in groups of three. -/
namespace ChatRooms.Timestamp

open Text (padded tensAndOnes)

def split (at_ : Timestamp) : Nat × Nat × Nat :=
  let minutes := at_.secondOfDay / 60
  (minutes / 60, minutes % 60, at_.secondOfDay % 60)

-- A leap second counts as the next second, which at the end of a minute is written 60.
def timeChars (at_ : Timestamp) : List Char :=
  let (hour, minute, second) := at_.split
  let shown := if at_.isLeap then second + 1 else second
  tensAndOnes hour ++ ':' :: tensAndOnes minute ++ ':' :: tensAndOnes shown

/-- A year outside the four-digit years carries its sign. -/
def yearChars (year : Int) : List Char :=
  if 0 ≤ year ∧ year ≤ 9999 then padded 4 year.toNat
  else (if year < 0 then '-' else '+') :: padded 4 year.natAbs

def dateChars (date : Calendar.Date) : List Char :=
  yearChars date.year ++ '-' :: tensAndOnes date.month ++ '-' :: tensAndOnes date.day

def fractionChars (nanosecond : Nat) : List Char :=
  if nanosecond = 0 then []
  else if nanosecond % 1000000 = 0 then '.' :: padded 3 (nanosecond / 1000000)
  else if nanosecond % 1000 = 0 then '.' :: padded 6 (nanosecond / 1000)
  else '.' :: padded 9 nanosecond

def chars (at_ : Timestamp) : List Char :=
  let nanosecond := if at_.isLeap then at_.nanosecond - 1000000000 else at_.nanosecond
  dateChars at_.date ++ 'T' :: at_.timeChars ++ fractionChars nanosecond ++ ['Z']

def text (at_ : Timestamp) : String :=
  String.ofList at_.chars

end ChatRooms.Timestamp
