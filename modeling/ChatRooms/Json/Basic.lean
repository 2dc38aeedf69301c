/-! JSON values. An object keeps its members in the order in which they were written, duplicates
included; a number keeps its value only when it is written as an integer other than minus zero. -/
namespace ChatRooms

inductive Json.Number where
  | integer (value : Int)
  | decimal (literal : String)
  deriving DecidableEq, Repr

inductive Json where
  | null
  | bool (value : Bool)
  | number (value : Json.Number)
  | string (value : String)
  | array (items : List Json)
  | object (members : List (String × Json))

namespace Json

/-- The three ways in which a text fails to be the value asked for: it is not JSON, it ends too
early to tell, or it is JSON of another shape. -/
inductive Fault where
  | malformed
  | truncated
  | misshapen
  deriving DecidableEq, Repr

def natural (value : Nat) : Json :=
  .number (.integer value)

def member? (value : Json) (name : String) : Option Json :=
  match value with
  | .object members => (members.reverse.find? (·.1 = name)).map (·.2)
  | _ => none

def string? : Json → Option String
  | .string value => some value
  | _ => none

def integer? : Json → Option Int
  | .number (.integer value) => some value
  | _ => none

def word? (value : Json) : Option Nat :=
  match value with
  | .number (.integer value) =>
      if 0 ≤ value ∧ value < Int.pow 2 64 then some value.toNat else none
  | _ => none

def bool? : Json → Option Bool
  | .bool value => some value
  | _ => none

def items? : Json → Option (List Json)
  | .array items => some items
  | _ => none

end Json
end ChatRooms
