import ChatRooms.Timestamp.Basic

/-! What the hub delivers to a client. -/
namespace ChatRooms

structure Broadcast where
  author : String
  content : String
  room : String
  sentAt : Timestamp
  deriving DecidableEq, Repr

structure DirectMessage where
  author : String
  recipient : String
  content : String
  sentAt : Timestamp
  deriving DecidableEq, Repr

inductive Event where
  | broadcast (post : Broadcast)
  | system (notice : String) (at_ : Timestamp)
  | users (names : List String)
  | direct (letter : DirectMessage)
  deriving DecidableEq, Repr

namespace Event

def joined (user room : String) (now : Timestamp) : Event :=
  .system (user ++ " joined " ++ room) now

def left (user room : String) (now : Timestamp) : Event :=
  .system (user ++ " left " ++ room) now

end Event
end ChatRooms
