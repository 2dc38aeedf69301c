import ChatRooms.Json.Basic

/-! The compact printed form of a value: no blanks, members in their order, and in strings only the
quote, the backslash and the C0 controls escaped. -/
namespace ChatRooms.Json

def hexDigit (value : Nat) : Char :=
  if value < 10 then Char.ofNat ('0'.toNat + value) else Char.ofNat ('a'.toNat + (value - 10))

def escapeChar (c : Char) : List Char :=
  match c with
  | '"' => ['\\', '"']
  | '\\' => ['\\', '\\']
  | '\x08' => ['\\', 'b']
  | '\x0c' => ['\\', 'f']
  | '\n' => ['\\', 'n']
  | '\r' => ['\\', 'r']
  | '\t' => ['\\', 't']
  | _ =>
      if c.toNat < 0x20 then
        ['\\', 'u', '0', '0', hexDigit (c.toNat / 16), hexDigit (c.toNat % 16)]
      else [c]

def printString (text : String) : List Char :=
  '"' :: (text.toList.flatMap escapeChar ++ ['"'])

def printNatural (value : Nat) : List Char :=
  Nat.toDigits 10 value

def printNumber : Number → List Char
  | .integer value =>
      if value < 0 then '-' :: printNatural value.natAbs else printNatural value.natAbs
  | .decimal literal => literal.toList

def commaSeparated : List (List Char) → List Char
  | [] => []
  | [entry] => entry
  | entry :: rest => entry ++ ',' :: commaSeparated rest

mutual
def print : Json → List Char
  | .null => ['n', 'u', 'l', 'l']
  | .bool true => ['t', 'r', 'u', 'e']
  | .bool false => ['f', 'a', 'l', 's', 'e']
  | .number value => printNumber value
  | .string value => printString value
  | .array items => '[' :: (commaSeparated (printItems items) ++ [']'])
  | .object members => '\x7b' :: (commaSeparated (printMembers members) ++ ['\x7d'])
def printItems : List Json → List (List Char)
  | [] => []
  | item :: rest => print item :: printItems rest
def printMembers : List (String × Json) → List (List Char)
  | [] => []
  | (name, value) :: rest => (printString name ++ ':' :: print value) :: printMembers rest
end

def render (value : Json) : String :=
  String.ofList (print value)

end ChatRooms.Json
