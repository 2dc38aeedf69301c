import ChatRooms.Text.Blank
import ChatRooms.Text.Digits
import ChatRooms.Timestamp.Basic

/-! Reading an instant from a relaxed RFC 3339 text. Blanks may stand before every number and every
mark but the one between date and time, numbers may have fewer digits, and the offset is
required. -/
namespace ChatRooms.Timestamp

open Text

def readNumber (limit : Nat) (text : List Char) : Option (Nat × List Char) :=
  let digits := (text.take limit).takeWhile isDigit
  if digits.isEmpty then none else some (digitsValue digits, text.drop digits.length)

def readField (text : List Char) : Option (Nat × List Char) :=
  readNumber 2 (trimStart text)

/-- A year of four digits at most, or of any number of digits after a sign. -/
def readYear (text : List Char) : Option (Int × List Char) :=
  match trimStart text with
  | '-' :: rest => (readNumber rest.length rest).map fun read => (-(read.1 : Int), read.2)
  | '+' :: rest => (readNumber rest.length rest).map fun read => ((read.1 : Int), read.2)
  | rest => (readNumber 4 rest).map fun read => ((read.1 : Int), read.2)

def readMark (mark : Char) (text : List Char) : Option (List Char) :=
  match trimStart text with
  | c :: rest => if c = mark then some rest else none
  | [] => none

def readDate (text : List Char) : Option (Calendar.Date × List Char) := do
  let (year, text) ← readYear text
  let text ← readMark '-' text
  let (month, text) ← readField text
  let text ← readMark '-' text
  let (day, text) ← readField text
  return (⟨year, month, day⟩, text)

def readSeparator : List Char → Option (List Char)
  | c :: rest => if c = 'T' ∨ c = 't' ∨ c = ' ' then some rest else none
  | [] => none

/-- Nanoseconds after a point. Digits beyond the ninth are dropped. -/
def readFraction : List Char → Option (Nat × List Char)
  | '.' :: rest => do
      let (value, after) ← readNumber 9 rest
      let seen := rest.length - after.length
      return (value * Nat.pow 10 (9 - seen), after.dropWhile isDigit)
  | text => some (0, text)

structure TimeOfDay where
  hour : Nat
  minute : Nat
  second : Nat
  nanosecond : Nat

/-- The seconds may count to 60. -/
def TimeOfDay.isValid (time : TimeOfDay) : Bool :=
  time.hour ≤ 23 && time.minute ≤ 59 && time.second ≤ 60

def readTime (text : List Char) : Option (TimeOfDay × List Char) := do
  let (hour, text) ← readField text
  let text ← readMark ':' text
  let (minute, text) ← readField text
  let text ← readMark ':' text
  let (second, text) ← readField text
  let (nanosecond, text) ← readFraction text
  return (⟨hour, minute, second, nanosecond⟩, text)

def twoDigits : List Char → Option (Nat × List Char)
  | a :: b :: rest => if isDigit a && isDigit b then some (digitsValue [a, b], rest) else none
  | _ => none

def isColonOrBlank (c : Char) : Bool :=
  c = ':' || isBlank c

def readHoursMinutes (text : List Char) : Option (Int × List Char) := do
  let (hours, text) ← twoDigits text
  let (minutes, text) ← twoDigits (text.dropWhile isColonOrBlank)
  if minutes ≤ 59 then return ((hours * 3600 + minutes * 60 : Nat), text) else none

def readOffset (text : List Char) : Option (Int × List Char) :=
  match trimStart text with
  | [] => none
  | c :: rest =>
      if c = 'Z' ∨ c = 'z' then some (0, rest)
      else if c = '+' then readHoursMinutes rest
      else if c = '-' ∨ c = '−' then
        (readHoursMinutes rest).map fun read => (-read.1, read.2)
      else match c :: rest with
        | u :: t :: c :: rest =>
            if (u = 'U' ∨ u = 'u') ∧ (t = 'T' ∨ t = 't') ∧ (c = 'C' ∨ c = 'c') then some (0, rest)
            else none
        | _ => none

/-- The instant of a local date and time at an offset. Both the local time and the instant have to
lie within the years that instants have. -/
def ofLocal? (date : Calendar.Date) (time : TimeOfDay) (offset : Int) : Option Timestamp :=
  if date.isValid && time.isValid && -86400 < offset && offset < 86400 then do
    let second := min time.second 59
    let leap := if time.second = 60 then 1000000000 else 0
    let days := date.dayNumber - Calendar.epoch
    let here := days * 86400 + ((time.hour * 3600 + time.minute * 60 + second : Nat) : Int)
    let _ ← ofUnix? here 0
    ofUnix? (here - offset) (time.nanosecond + leap)
  else none

def ofChars? (text : List Char) : Option Timestamp := do
  let (date, text) ← readDate text
  let text ← readSeparator text
  let (time, text) ← readTime text
  let (offset, text) ← readOffset text
  if (trimStart text).isEmpty then ofLocal? date time offset else none

def ofText? (text : String) : Option Timestamp :=
  ofChars? text.toList

end ChatRooms.Timestamp
