import ChatRooms.Command
import ChatRooms.Config
import ChatRooms.History
import ChatRooms.Mailbox.Mailroom
import ChatRooms.Text.Quoted

/-! The state of the hub: who is registered under which name in which room, the history of the
rooms, and the clients whose mailbox was found closed and who have yet to be removed. -/
namespace ChatRooms

/-- A registered client: the identity it is registered under, and that of the mailbox whose address
is kept for it. -/
structure Member where
  id : ClientId
  handle : ClientId
  name : String
  room : String
  deriving DecidableEq, Repr

structure Hub where
  defaultRoom : String
  members : List Member
  history : History
  closed : List ClientId
  deriving DecidableEq, Repr

structure Request where
  sender : ClientId
  command : Command
  deriving DecidableEq, Repr

inductive Refusal where
  | alreadyConnected (client : ClientId)
  | strangerDisconnects (client : ClientId)
  | strangerPosts (client : ClientId)
  | noSuchUser (name : String)
  deriving DecidableEq, Repr

def Refusal.message : Refusal → String
  | .alreadyConnected client => "client " ++ client.label ++ " already connected"
  | .strangerDisconnects client => "disconnect from unknown client " ++ client.label
  | .strangerPosts client => "message from unknown client " ++ client.label ++ " ignored"
  | .noSuchUser name => "direct message to unknown user " ++ Text.quoted name

namespace Hub

def create (config : Config) : Hub :=
  ⟨config.defaultRoom, [], History.empty config.historySize, []⟩

def member? (hub : Hub) (id : ClientId) : Option Member :=
  hub.members.find? (·.id = id)

def isRegistered (hub : Hub) (id : ClientId) : Bool :=
  hub.members.any (·.id = id)

def usersIn (hub : Hub) (room : String) : List String :=
  (hub.members.filter (·.room = room)).map (·.name)

def roomOrDefault (hub : Hub) (room : String) : String :=
  if room.isEmpty then hub.defaultRoom else room

def enroll (hub : Hub) (member : Member) : Hub :=
  { hub with members := hub.members ++ [member] }

def strike (hub : Hub) (id : ClientId) : Hub :=
  { hub with members := hub.members.filter (·.id ≠ id) }

def record (hub : Hub) (post : Broadcast) : Hub :=
  { hub with history := hub.history.push post }

def reset (hub : Hub) : Hub :=
  { hub with members := [], history := hub.history.clear, closed := [] }

end Hub
end ChatRooms
