import ChatRooms.Json.Reader

/-! Passing over a value that nobody asked for. Only its form is checked: numbers of any size pass,
so do escapes of single surrogates, and nesting has no bound, which is why the enclosing arrays and
objects are kept in a list. -/
namespace ChatRooms.Json

open Text (isDigit)

/-- The characters after the closing quote of a string whose opening quote has been read. `hex` is
how many digits of an escape are still to come, or none outside of escapes. -/
def skipString : Option Nat → List Char → Except Fault (List Char)
  | _, [] => .error .truncated
  | none, c :: rest =>
      if c = '"' then .ok rest
      else if c = '\\' then
        match rest with
        | [] => .error .truncated
        | escaped :: rest =>
            if escaped = 'u' then skipString (some 4) rest
            else if (shortEscape? escaped).isSome then skipString none rest
            else .error .malformed
      else if c.toNat < 0x20 then .error .malformed
      else skipString none rest
  | some left, c :: rest =>
      if (hexValue? c).isNone then .error (hexFault (4 - left) (c :: rest))
      else skipString (if left ≤ 1 then none else some (left - 1)) rest

def skipDigits (text : List Char) : Except Fault (List Char) :=
  if startsWithDigit text then .ok (text.dropWhile isDigit) else .error .malformed

def skipExponent : List Char → Except Fault (List Char)
  | [] => .ok []
  | c :: rest =>
      if c = 'e' ∨ c = 'E' then
        match rest with
        | '+' :: rest => skipDigits rest
        | '-' :: rest => skipDigits rest
        | rest => skipDigits rest
      else .ok (c :: rest)

def skipNumber : List Char → Except Fault (List Char)
  | '0' :: rest => if startsWithDigit rest then .error .malformed else afterWhole rest
  | text => do afterWhole (← skipDigits text)
where
  afterWhole : List Char → Except Fault (List Char)
    | '.' :: rest => do skipExponent (← skipDigits rest)
    | rest => skipExponent rest

inductive Enclosure where
  | array
  | object
  deriving DecidableEq, Repr

def Enclosure.close : Enclosure → Char
  | .array => ']'
  | .object => '\x7d'

def skipStart (text : List Char) : Except Fault (Option Enclosure × List Char) :=
  match skipSpace text with
  | [] => .error .truncated
  | c :: rest =>
      if c = '[' then .ok (some .array, rest)
      else if c = '\x7b' then .ok (some .object, rest)
      else if c = 'n' then (word ['u', 'l', 'l'] rest).map (none, ·)
      else if c = 't' then (word ['r', 'u', 'e'] rest).map (none, ·)
      else if c = 'f' then (word ['a', 'l', 's', 'e'] rest).map (none, ·)
      else if c = '"' then (skipString none rest).map (none, ·)
      else if c = '-' then (skipNumber rest).map (none, ·)
      else if isDigit c then (skipNumber (c :: rest)).map (none, ·)
      else .error .malformed

def skipKey (text : List Char) : Except Fault (List Char) :=
  match skipSpace text with
  | [] => .error .truncated
  | c :: rest => if c = '"' then do colon (← skipString none rest) else .error .malformed

inductive Expected where
  | value
  | entry (first : Bool)

/-- Passes over what is left of a value inside the given enclosures, innermost first. A step reads
a character or turns an entry into a value. -/
def skipInside : Nat → List Enclosure → Expected → List Char → Except Fault (List Char)
  | 0, _, _, _ => .error .truncated
  | fuel + 1, enclosures, .value, text => do
      match ← skipStart text with
      | (some opened, rest) => skipInside fuel (opened :: enclosures) (.entry true) rest
      | (none, rest) => skipInside fuel enclosures (.entry false) rest
  | _ + 1, [], .entry _, text => .ok text
  | fuel + 1, enclosure :: enclosures, .entry first, text => do
      match ← nextEntry enclosure.close first text with
      | .done rest => skipInside fuel enclosures (.entry false) rest
      | .more rest =>
          let rest ← if enclosure = .object then skipKey rest else pure rest
          skipInside fuel (enclosure :: enclosures) .value rest

def skipValue (text : List Char) : Except Fault (List Char) :=
  skipInside (2 * text.length + 2) [] .value text

end ChatRooms.Json
