import ChatRooms.Event
import ChatRooms.Timestamp.Clock

/-! Events as lines on a terminal. The time is the time of day in UTC. -/
namespace ChatRooms.Terminal

def stamp (at_ : Timestamp) : String :=
  "[" ++ at_.clock ++ "] "

def render (event : Event) (room : String) : String :=
  match event with
  | .broadcast post =>
      stamp post.sentAt ++ "[" ++ post.room ++ "] " ++ post.author ++ ": " ++ post.content
  | .direct letter => stamp letter.sentAt ++ "[DM from " ++ letter.author ++ "]: " ++ letter.content
  | .system notice at_ => stamp at_ ++ "*** " ++ notice ++ " ***"
  | .users names =>
      if names.isEmpty then "No one online in " ++ room
      else "Online in " ++ room ++ ": " ++ String.intercalate ", " names

end ChatRooms.Terminal
