import ChatRooms.Json.Basic
import ChatRooms.Json.Double
import ChatRooms.Text.Digits

/-! Reading JSON from characters. Every reader returns what it read and the characters that remain,
or the first fault in the order of the text. Nesting is bounded, so reading recurses on the depth
that is left; the loops over items and members are bounded by the length of the text. -/
namespace ChatRooms.Json

open Text (isDigit digitsValue)

variable {α σ : Type}

abbrev Read (α : Type) := List Char → Except Fault (α × List Char)

def isSpace (c : Char) : Bool :=
  c = ' ' || c = '\n' || c = '\t' || c = '\r'

def skipSpace (text : List Char) : List Char :=
  text.dropWhile isSpace

def word : List Char → List Char → Except Fault (List Char)
  | [], text => .ok text
  | _ :: _, [] => .error .truncated
  | letter :: letters, c :: rest => if c = letter then word letters rest else .error .malformed

/-! Strings -/

def hexValue? (c : Char) : Option Nat :=
  if '0' ≤ c ∧ c ≤ '9' then some (c.toNat - '0'.toNat)
  else if 'a' ≤ c ∧ c ≤ 'f' then some (c.toNat - 'a'.toNat + 10)
  else if 'A' ≤ c ∧ c ≤ 'F' then some (c.toNat - 'A'.toNat + 10)
  else none

def octets (text : List Char) : Nat :=
  (text.map Char.utf8Size).foldr Nat.add 0

/-- The fault of an escape of four hexadecimal digits that holds another character: the text is cut
short when fewer than four octets are left for it. -/
def hexFault (seen : Nat) (text : List Char) : Fault :=
  if seen + octets text < 4 then .truncated else .malformed

def shortEscape? : Char → Option Char
  | '"' => some '"'
  | '\\' => some '\\'
  | '/' => some '/'
  | 'b' => some '\x08'
  | 'f' => some '\x0c'
  | 'n' => some '\n'
  | 'r' => some '\r'
  | 't' => some '\t'
  | _ => none

def isHighSurrogate (unit : Nat) : Bool :=
  0xD800 ≤ unit && unit ≤ 0xDBFF

def isLowSurrogate (unit : Nat) : Bool :=
  0xDC00 ≤ unit && unit ≤ 0xDFFF

def joinSurrogates (high low : Nat) : Char :=
  Char.ofNat (0x10000 + (high - 0xD800) * 0x400 + (low - 0xDC00))

/-- Where a string being read stands: between characters, after a backslash, inside the digits of
an escape, or after a high surrogate that still needs its low one. -/
inductive StringState where
  | plain
  | escape
  | hex (seen unit : Nat) (high : Option Nat)
  | wantBackslash (high : Nat)
  | wantLetter (high : Nat)

def finishUnit (unit : Nat) (high : Option Nat) : Except Fault (Option Char × StringState) :=
  match high with
  | some half =>
      if isLowSurrogate unit then .ok (some (joinSurrogates half unit), .plain)
      else .error .malformed
  | none =>
      if isLowSurrogate unit then .error .malformed
      else if isHighSurrogate unit then .ok (none, .wantBackslash unit)
      else .ok (some (Char.ofNat unit), .plain)

def pushChar (found : Option Char) (read : List Char × List Char) : List Char × List Char :=
  match found with
  | some c => (c :: read.1, read.2)
  | none => read

def stringFrom : StringState → List Char → Except Fault (List Char × List Char)
  | _, [] => .error .truncated
  | .plain, c :: rest =>
      if c = '"' then .ok ([], rest)
      else if c = '\\' then stringFrom .escape rest
      else if c.toNat < 0x20 then .error .malformed
      else (stringFrom .plain rest).map (pushChar (some c))
  | .escape, c :: rest =>
      if c = 'u' then stringFrom (.hex 0 0 none) rest
      else match shortEscape? c with
        | some escaped => (stringFrom .plain rest).map (pushChar (some escaped))
        | none => .error .malformed
  | .hex seen unit high, c :: rest =>
      match hexValue? c with
      | none => .error (hexFault seen (c :: rest))
      | some digit =>
          if seen < 3 then stringFrom (.hex (seen + 1) (unit * 16 + digit) high) rest
          else match finishUnit (unit * 16 + digit) high with
            | .error fault => .error fault
            | .ok (found, next) => (stringFrom next rest).map (pushChar found)
  | .wantBackslash high, c :: rest =>
      if c = '\\' then stringFrom (.wantLetter high) rest else .error .malformed
  | .wantLetter high, c :: rest =>
      if c = 'u' then stringFrom (.hex 0 0 (some high)) rest else .error .malformed

def quotedString (text : List Char) : Except Fault (String × List Char) :=
  (stringFrom .plain text).map fun read => (String.ofList read.1, read.2)

/-! Numbers -/

def startsWithDigit : List Char → Bool
  | [] => false
  | c :: _ => isDigit c

def exponent (text : List Char) : Except Fault ((Int × List Char) × List Char) :=
  let (sign, unsigned) := match text with
    | '+' :: rest => (['+'], rest)
    | '-' :: rest => (['-'], rest)
    | rest => ([], rest)
  match unsigned with
  | [] => .error .truncated
  | c :: _ =>
      if isDigit c then
        let digits := unsigned.takeWhile isDigit
        let size : Int := digitsValue digits
        .ok ((if sign = ['-'] then -size else size, sign ++ digits), unsigned.dropWhile isDigit)
      else .error .malformed

def decimal (sign whole fraction : List Char) (mark : List Char) (scale : Int)
    (rest : List Char) : Except Fault (Number × List Char) :=
  let (word, shift) := significand whole fraction
  if fitsDouble word scale shift then
    let point := if fraction.isEmpty then [] else '.' :: fraction
    .ok (.decimal (String.ofList (sign ++ whole ++ point ++ mark)), rest)
  else .error .malformed

def afterWhole (sign whole fraction text : List Char) : Except Fault (Number × List Char) :=
  match text with
  | c :: rest =>
      if c = 'e' ∨ c = 'E' then do
        let ((scale, mark), rest) ← exponent rest
        decimal sign whole fraction (c :: mark) scale rest
      else if fraction.isEmpty then integral (c :: rest)
      else decimal sign whole fraction [] 0 (c :: rest)
  | [] => if fraction.isEmpty then integral [] else decimal sign whole fraction [] 0 []
where
  integral (rest : List Char) : Except Fault (Number × List Char) :=
    let value := digitsValue whole
    let (word, shift) := significand whole []
    if fitsDouble word 0 shift then
      if sign.isEmpty then .ok (.integer value, rest)
      else if value = 0 then .ok (.decimal "-0", rest)
      else .ok (.integer (-(value : Int)), rest)
    else .error .malformed

def withFraction (sign whole text : List Char) : Except Fault (Number × List Char) :=
  match text with
  | '.' :: rest =>
      let fraction := rest.takeWhile isDigit
      if fraction.isEmpty then .error (if rest.isEmpty then .truncated else .malformed)
      else afterWhole sign whole fraction (rest.dropWhile isDigit)
  | text => afterWhole sign whole [] text

def numeral (text : List Char) : Except Fault (Number × List Char) :=
  let (sign, unsigned) := match text with
    | '-' :: rest => (['-'], rest)
    | rest => ([], rest)
  match unsigned with
  | [] => .error .truncated
  | c :: rest =>
      if c = '0' then
        if startsWithDigit rest then .error .malformed else withFraction sign ['0'] rest
      else if isDigit c then
        withFraction sign (unsigned.takeWhile isDigit) (unsigned.dropWhile isDigit)
      else .error .malformed

/-! Values -/

def scalar (text : List Char) : Except Fault (Json × List Char) :=
  match skipSpace text with
  | [] => .error .truncated
  | c :: rest =>
      if c = 'n' then (word ['u', 'l', 'l'] rest).map (.null, ·)
      else if c = 't' then (word ['r', 'u', 'e'] rest).map (.bool true, ·)
      else if c = 'f' then (word ['a', 'l', 's', 'e'] rest).map (.bool false, ·)
      else if c = '"' then (quotedString rest).map fun read => (.string read.1, read.2)
      else if c = '-' ∨ isDigit c then
        (numeral (c :: rest)).map fun read => (.number read.1, read.2)
      else .error .malformed

inductive Next where
  | done (rest : List Char)
  | more (rest : List Char)

def nextEntry (close : Char) (first : Bool) (text : List Char) : Except Fault Next :=
  match skipSpace text with
  | [] => .error .truncated
  | c :: rest =>
      if c = close then .ok (.done rest)
      else if first then .ok (.more (c :: rest))
      else if c = ',' then
        match skipSpace rest with
        | [] => .error .truncated
        | d :: rest => if d = close then .error .malformed else .ok (.more (d :: rest))
      else .error .malformed

def colon (text : List Char) : Except Fault (List Char) :=
  match skipSpace text with
  | [] => .error .truncated
  | c :: rest => if c = ':' then .ok rest else .error .malformed

def key (text : List Char) : Except Fault (String × List Char) :=
  match skipSpace text with
  | [] => .error .truncated
  | c :: rest => if c = '"' then quotedString rest else .error .malformed

def items (item : Read α) : Nat → Bool → Read (List α)
  | 0, _, _ => .error .truncated
  | fuel + 1, first, text => do
      match ← nextEntry ']' first text with
      | .done rest => return ([], rest)
      | .more rest =>
          let (value, rest) ← item rest
          let (values, rest) ← items item fuel false rest
          return (value :: values, rest)

/-- Folds over the members of an object whose opening brace has been read. `take` gets the key and
the characters right after it, so it decides what happens before the colon. -/
def members (take : σ → String → Read σ) : Nat → Bool → σ → Read σ
  | 0, _, _, _ => .error .truncated
  | fuel + 1, first, state, text => do
      match ← nextEntry '\x7d' first text with
      | .done rest => return (state, rest)
      | .more rest =>
          let (name, rest) ← key rest
          let (state, rest) ← take state name rest
          members take fuel false state rest

def member (item : Read α) (before : List (String × α)) (name : String) :
    Read (List (String × α)) := fun text => do
  let rest ← colon text
  let (value, rest) ← item rest
  return (before ++ [(name, value)], rest)

def value : Nat → Read Json
  | 0, text => scalar text
  | depth + 1, text =>
      match skipSpace text with
      | '[' :: rest => do
          let (values, rest) ← items (value depth) (rest.length + 1) true rest
          return (.array values, rest)
      | '\x7b' :: rest => do
          let (pairs, rest) ← members (member (value depth)) (rest.length + 1) true [] rest
          return (.object pairs, rest)
      | text => scalar text

def maxDepth : Nat := 127

def atEnd (text : List Char) : Except Fault Unit :=
  if (skipSpace text).isEmpty then .ok () else .error .malformed

def whole (read : Read α) (text : String) : Except Fault α := do
  let (result, rest) ← read text.toList
  atEnd rest
  return result

def parse (text : String) : Except Fault Json :=
  whole (value maxDepth) text

end ChatRooms.Json
