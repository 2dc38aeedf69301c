import ChatRooms.Event

/-! What a client asks of the hub. An empty room stands for a room that the hub knows: the default
room, or for a post the room in which the sender is registered. -/
namespace ChatRooms

inductive Command where
  | connect (user room : String)
  | disconnect
  | post (user content room : String)
  | direct (letter : DirectMessage)
  | listUsers (room : String)
  deriving DecidableEq, Repr

end ChatRooms
