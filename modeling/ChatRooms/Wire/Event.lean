import ChatRooms.Event
import ChatRooms.Json.Printer
import ChatRooms.Timestamp.Printer
import ChatRooms.Timestamp.Reader
import ChatRooms.Wire.Tagged

/-! The JSON form of events: the tag first, then the fields in their declared order. -/
namespace ChatRooms.Wire

open Json

def stampField? (field : Option Json) : Option Timestamp := do
  Timestamp.ofText? (← stringField? field)

def namesField? : Option Json → Option (List String)
  | some (.array values) => values.mapM Json.string?
  | _ => none

def letterFields : List String := ["from_user", "to_user", "content", "sent_at"]

def letterOfBody? (body : Body) : Option DirectMessage := do
  match ← body.fields? letterFields with
  | [author, recipient, content, sentAt] =>
      return ⟨← stringField? author, ← stringField? recipient, ← stringField? content,
        ← stampField? sentAt⟩
  | _ => none

def letterMembers (letter : DirectMessage) : List (String × Json) :=
  [("from_user", .string letter.author), ("to_user", .string letter.recipient),
    ("content", .string letter.content), ("sent_at", .string letter.sentAt.text)]

def eventTags : List String := ["broadcast", "system", "users", "direct"]

def eventMembers : Event → List (String × Json)
  | .broadcast post =>
      [(tagName, .string "broadcast"), ("from_user", .string post.author),
        ("content", .string post.content), ("room", .string post.room),
        ("sent_at", .string post.sentAt.text)]
  | .system notice at_ =>
      [(tagName, .string "system"), ("text", .string notice), ("at", .string at_.text)]
  | .users names => [(tagName, .string "users"), ("user_names", .array (names.map .string))]
  | .direct letter => (tagName, .string "direct") :: letterMembers letter

def broadcastOfBody? (body : Body) : Option Broadcast := do
  match ← body.fields? ["from_user", "content", "room", "sent_at"] with
  | [author, content, room, sentAt] =>
      return ⟨← stringField? author, ← stringField? content, ← stringField? room,
        ← stampField? sentAt⟩
  | _ => none

def systemOfBody? (body : Body) : Option Event := do
  match ← body.fields? ["text", "at"] with
  | [notice, at_] => return .system (← stringField? notice) (← stampField? at_)
  | _ => none

def usersOfBody? (body : Body) : Option Event := do
  match ← body.fields? ["user_names"] with
  | [names] => return .users (← namesField? names)
  | _ => none

def eventOfTagged? (found : Tagged) : Option Event :=
  if found.tag = "broadcast" then (broadcastOfBody? found.body).map .broadcast
  else if found.tag = "system" then systemOfBody? found.body
  else if found.tag = "users" then usersOfBody? found.body
  else if found.tag = "direct" then (letterOfBody? found.body).map .direct
  else none

def eventJson (event : Event) : Json :=
  .object (eventMembers event)

def renderEvent (event : Event) : String :=
  (eventJson event).render

def readEvent (text : String) : Except Fault Event :=
  readDocument eventTags eventOfTagged? text

end ChatRooms.Wire
