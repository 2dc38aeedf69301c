import ChatRooms.Json.Reader

/-! Values told apart by a tag. The tag is the member `type` of an object, wherever it stands, or
the first item of an array; the fields are the other members, or the other items in their declared
order. The tag is checked as soon as it is read, the fields only when the whole value has been. -/
namespace ChatRooms.Wire

open Json

inductive Body where
  | members (pairs : List (String × Json))
  | items (values : List Json)

structure Tagged where
  tag : String
  body : Body

def tagName : String := "type"

def refuse (text : List Char) : Fault :=
  match skipSpace text with
  | [] => .truncated
  | c :: rest =>
      if c = '[' ∨ c = '\x7b' then .misshapen
      else match scalar (c :: rest) with
        | .error fault => fault
        | .ok _ => .misshapen

def checkedString (admitted : String → Bool) : Read String := fun text =>
  match skipSpace text with
  | '"' :: rest => do
      let (found, rest) ← quotedString rest
      if admitted found then return (found, rest) else .error .misshapen
  | rest => .error (refuse rest)

def takeMember (tags : List String) (state : Option String × List (String × Json))
    (name : String) : Read (Option String × List (String × Json)) := fun text =>
  if name = tagName then
    if state.1.isSome then .error .misshapen
    else do
      let rest ← colon text
      let (found, rest) ← checkedString (tags.contains ·) rest
      return ((some found, state.2), rest)
  else do
    let (pairs, rest) ← member (value (maxDepth - 1)) state.2 name text
    return ((state.1, pairs), rest)

def readTagged (tags : List String) : Read Tagged := fun text =>
  match skipSpace text with
  | '\x7b' :: rest => do
      let ((found, pairs), rest) ←
        members (takeMember tags) (rest.length + 1) true (none, []) rest
      match found with
      | some tag => return (⟨tag, .members pairs⟩, rest)
      | none => .error .misshapen
  | '[' :: rest => do
      match ← nextEntry ']' true rest with
      | .done _ => .error .misshapen
      | .more rest =>
          let (tag, rest) ← checkedString (tags.contains ·) rest
          let (values, rest) ← items (value (maxDepth - 1)) (rest.length + 1) false rest
          return (⟨tag, .items values⟩, rest)
  | rest => .error (refuse rest)

def tagged? (tags : List String) : Json → Option Tagged
  | .object pairs =>
      match pairs.filter (·.1 = tagName) with
      | [(_, .string tag)] =>
          if tags.contains tag then some ⟨tag, .members (pairs.filter (·.1 ≠ tagName))⟩ else none
      | _ => none
  | .array (.string tag :: values) => if tags.contains tag then some ⟨tag, .items values⟩ else none
  | _ => none

/-- The value of each field, none where the field is absent. A field given twice and an item too
many are refused; members of other names are passed over. -/
def Body.fields? (names : List String) : Body → Option (List (Option Json))
  | .members pairs =>
      names.mapM fun name =>
        match pairs.filter (·.1 = name) with
        | [] => some none
        | [(_, found)] => some (some found)
        | _ => none
  | .items values =>
      if values.length ≤ names.length then
        some (values.map some ++ List.replicate (names.length - values.length) none)
      else none

def Body.isEmpty : Body → Bool
  | .members pairs => pairs.isEmpty
  | .items values => values.isEmpty

def stringField? : Option Json → Option String
  | some (.string found) => some found
  | _ => none

def stringOrEmpty? : Option Json → Option String
  | none => some ""
  | some (.string found) => some found
  | _ => none

def readDocument {α : Type} (tags : List String) (ofTagged? : Tagged → Option α)
    (text : String) : Except Fault α :=
  whole (fun text => do
    let (found, rest) ← readTagged tags text
    match ofTagged? found with
    | some result => return (result, rest)
    | none => .error .misshapen) text

end ChatRooms.Wire
