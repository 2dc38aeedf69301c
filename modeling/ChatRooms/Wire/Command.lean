import ChatRooms.Command
import ChatRooms.Wire.Event

/-! The JSON form of commands. A room may be left out and is empty then. A disconnect has no fields
and admits no other member. -/
namespace ChatRooms.Wire

open Json

def commandTags : List String :=
  ["connect", "disconnect", "message", "direct_message", "list_users"]

def commandMembers : Command → List (String × Json)
  | .connect user room =>
      [(tagName, .string "connect"), ("user_name", .string user), ("room", .string room)]
  | .disconnect => [(tagName, .string "disconnect")]
  | .post user content room =>
      [(tagName, .string "message"), ("user_name", .string user), ("content", .string content),
        ("room", .string room)]
  | .direct letter => (tagName, .string "direct_message") :: letterMembers letter
  | .listUsers room => [(tagName, .string "list_users"), ("room", .string room)]

def connectOfBody? (body : Body) : Option Command := do
  match ← body.fields? ["user_name", "room"] with
  | [user, room] => return .connect (← stringField? user) (← stringOrEmpty? room)
  | _ => none

def postOfBody? (body : Body) : Option Command := do
  match ← body.fields? ["user_name", "content", "room"] with
  | [user, content, room] =>
      return .post (← stringField? user) (← stringField? content) (← stringOrEmpty? room)
  | _ => none

def listOfBody? (body : Body) : Option Command := do
  match ← body.fields? ["room"] with
  | [room] => return .listUsers (← stringOrEmpty? room)
  | _ => none

def commandOfTagged? (found : Tagged) : Option Command :=
  if found.tag = "connect" then connectOfBody? found.body
  else if found.tag = "disconnect" then
    if found.body.isEmpty then some .disconnect else none
  else if found.tag = "message" then postOfBody? found.body
  else if found.tag = "direct_message" then (letterOfBody? found.body).map .direct
  else if found.tag = "list_users" then listOfBody? found.body
  else none

def renderCommand (command : Command) : String :=
  (Json.object (commandMembers command)).render

def readCommand (text : String) : Except Fault Command :=
  readDocument commandTags commandOfTagged? text

def command? (value : Json) : Option Command := do
  commandOfTagged? (← tagged? commandTags value)

end ChatRooms.Wire
