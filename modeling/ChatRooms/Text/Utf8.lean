/-! UTF-8 as RFC 3629 defines it. Decoding stops at the first sequence that is not a character and
says where it starts and how many of its octets belong together, or that the octets ended inside
an otherwise possible character. -/
namespace ChatRooms.Text.Utf8

inductive Fault where
  | invalid (length index : Nat)
  | incomplete (index : Nat)
  deriving DecidableEq, Repr

def Fault.message : Fault → String
  | .invalid length index =>
      "invalid utf-8 sequence of " ++ toString length ++ " bytes from index " ++ toString index
  | .incomplete index => "incomplete utf-8 byte sequence from index " ++ toString index

def isTail (octet : UInt8) : Bool :=
  0x80 ≤ octet && octet ≤ 0xBF

/-- The octets allowed second after a lead octet of a three-octet character. -/
def secondOfThree (lead octet : UInt8) : Bool :=
  if lead = 0xE0 then 0xA0 ≤ octet && octet ≤ 0xBF
  else if lead = 0xED then 0x80 ≤ octet && octet ≤ 0x9F
  else isTail octet

/-- The octets allowed second after a lead octet of a four-octet character. -/
def secondOfFour (lead octet : UInt8) : Bool :=
  if lead = 0xF0 then 0x90 ≤ octet && octet ≤ 0xBF
  else if lead = 0xF4 then 0x80 ≤ octet && octet ≤ 0x8F
  else isTail octet

def low (octet : UInt8) : Nat :=
  octet.toNat % 0x40

inductive Lead where
  | one | two | three | four | none

def Lead.of (octet : UInt8) : Lead :=
  if octet < 0x80 then .one
  else if 0xC2 ≤ octet && octet ≤ 0xDF then .two
  else if 0xE0 ≤ octet && octet ≤ 0xEF then .three
  else if 0xF0 ≤ octet && octet ≤ 0xF4 then .four
  else .none

def pair (a b : UInt8) : Char :=
  Char.ofNat (a.toNat % 0x20 * 0x40 + low b)

def triple (a b c : UInt8) : Char :=
  Char.ofNat (a.toNat % 0x10 * 0x1000 + low b * 0x40 + low c)

def quadruple (a b c d : UInt8) : Char :=
  Char.ofNat (a.toNat % 0x08 * 0x40000 + low b * 0x1000 + low c * 0x40 + low d)

def decodeFrom (index : Nat) : List UInt8 → Except Fault (List Char)
  | [] => .ok []
  | a :: rest =>
      match Lead.of a, rest with
      | .one, rest => do
          let chars ← decodeFrom (index + 1) rest
          return Char.ofNat a.toNat :: chars
      | .two, b :: rest =>
          if isTail b then do
            let chars ← decodeFrom (index + 2) rest
            return pair a b :: chars
          else .error (.invalid 1 index)
      | .three, b :: c :: rest =>
          if !secondOfThree a b then .error (.invalid 1 index)
          else if isTail c then do
            let chars ← decodeFrom (index + 3) rest
            return triple a b c :: chars
          else .error (.invalid 2 index)
      | .three, [b] =>
          .error (if secondOfThree a b then .incomplete index else .invalid 1 index)
      | .four, b :: c :: d :: rest =>
          if !secondOfFour a b then .error (.invalid 1 index)
          else if !isTail c then .error (.invalid 2 index)
          else if isTail d then do
            let chars ← decodeFrom (index + 4) rest
            return quadruple a b c d :: chars
          else .error (.invalid 3 index)
      | .four, [b, c] =>
          .error (if !secondOfFour a b then .invalid 1 index
            else if !isTail c then .invalid 2 index else .incomplete index)
      | .four, [b] =>
          .error (if secondOfFour a b then .incomplete index else .invalid 1 index)
      | .none, _ => .error (.invalid 1 index)
      | _, [] => .error (.incomplete index)

def decode (octets : List UInt8) : Except Fault String :=
  (decodeFrom 0 octets).map String.ofList

end ChatRooms.Text.Utf8
