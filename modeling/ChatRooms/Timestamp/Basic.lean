import ChatRooms.Calendar

/-! Instants in UTC with nanoseconds. The second counts from 1970-01-01 without leap seconds; a
leap second is the second before it with a billion nanoseconds or more. A count of seconds makes one
at the end of a minute only, but an instant can be moved into one at any second. -/
namespace ChatRooms

structure Timestamp where
  second : Int
  nanosecond : Nat
  not_early : -8334601228800 ≤ second
  not_late : second ≤ 8210266876799
  fraction : nanosecond < 2000000000
  deriving DecidableEq, Repr

namespace Timestamp

-- The fraction may count into a leap second only at second 59 of a minute.
def ofUnix? (second : Int) (nanosecond : Nat) : Option Timestamp :=
  if not_early : -8334601228800 ≤ second then
    if not_late : second ≤ 8210266876799 then
      if fraction : nanosecond < 2000000000 then
        if nanosecond < 1000000000 ∨ second % 60 = 59 then
          some ⟨second, nanosecond, not_early, not_late, fraction⟩
        else none
      else none
    else none
  else none

def isLeap (at_ : Timestamp) : Bool :=
  1000000000 ≤ at_.nanosecond

def secondOfDay (at_ : Timestamp) : Nat :=
  (at_.second % 86400).toNat

def date (at_ : Timestamp) : Calendar.Date :=
  Calendar.dateOf (at_.second / 86400 + Calendar.epoch)

end Timestamp
end ChatRooms
