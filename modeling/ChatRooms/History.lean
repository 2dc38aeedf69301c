import ChatRooms.Event

/-! The recent messages of every room, oldest first and at most as many as the capacity. A room is
known from its first message on, even when the capacity keeps none. -/
namespace ChatRooms

structure History where
  capacity : Nat
  rooms : List (String × List Broadcast)
  deriving DecidableEq, Repr

namespace History

def empty (capacity : Nat) : History := ⟨capacity, []⟩

def recent (history : History) (room : String) : List Broadcast :=
  match history.rooms.find? (·.1 = room) with
  | some entry => entry.2
  | none => []

def count (history : History) (room : String) : Nat :=
  (history.recent room).length

def roomCount (history : History) : Nat :=
  history.rooms.length

def trimmed (capacity : Nat) (posts : List Broadcast) : List Broadcast :=
  posts.drop (posts.length - capacity)

def push (history : History) (post : Broadcast) : History :=
  let kept := trimmed history.capacity (history.recent post.room ++ [post])
  let others := history.rooms.filter (·.1 ≠ post.room)
  { history with rooms := (post.room, kept) :: others }

def clear (history : History) : History :=
  { history with rooms := [] }

end History
end ChatRooms
