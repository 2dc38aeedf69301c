import ChatRooms.Text.Digits
import ChatRooms.Timestamp.Basic

/-! The time of day by a pattern. The pattern of a clock is `%H:%M:%S`. -/
namespace ChatRooms.Timestamp

inductive ClockItem where
  | hour
  | minute
  | second
  | literal (c : Char)

-- The seconds count whole nanosecond parts too, so that a leap second shows as 60.
def ClockItem.chars (at_ : Timestamp) : ClockItem → List Char
  | .hour => Text.padded 2 (at_.secondOfDay / 3600)
  | .minute => Text.padded 2 (at_.secondOfDay % 3600 / 60)
  | .second => Text.padded 2 (at_.secondOfDay % 60 + at_.nanosecond / 1000000000)
  | .literal c => [c]

def clockPattern : List ClockItem :=
  [.hour, .literal ':', .minute, .literal ':', .second]

def clock (at_ : Timestamp) : String :=
  String.ofList (clockPattern.flatMap (ClockItem.chars at_))

end ChatRooms.Timestamp
