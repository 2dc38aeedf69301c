import ChatRooms.Command
import ChatRooms.Mailbox.Basic

/-! A user's place at the hub: a mailbox for the answers, the name, and the room the user believes
to be in. What a user wants done is carried out as a list of moves, one after the other, each of
which may be the last because the hub takes no more requests. -/
namespace ChatRooms

structure Session where
  id : ClientId
  user : String
  room : String
  deriving DecidableEq, Repr

inductive Wish where
  | connect
  | disconnect
  | post (content : String)
  | postTo (room content : String)
  | direct (recipient content : String)
  | listUsers
  | switchRoom (room : String)
  deriving DecidableEq, Repr

inductive Move where
  | send (command : Command)
  | enter (room : String)
  deriving DecidableEq, Repr

inductive SessionError where
  | hubGone
  | timedOut
  | closed
  deriving DecidableEq, Repr

def SessionError.message : SessionError → String
  | .hubGone => "Actor communication error: " ++ MailboxError.closed.message
  | .timedOut => "Timed out waiting for the hub"
  | .closed => "Session closed"

namespace Session

def letter (session : Session) (recipient content : String) (now : Timestamp) : DirectMessage :=
  ⟨session.user, recipient, content, now⟩

/-- The moves that carry out a wish. A post without a room goes to the room in which the hub has
the user registered, which a switch changes by leaving and joining. -/
def moves (session : Session) (now : Timestamp) : Wish → List Move
  | .connect => [.send (.connect session.user session.room)]
  | .disconnect => [.send .disconnect]
  | .post content => [.send (.post session.user content "")]
  | .postTo room content => [.send (.post session.user content room)]
  | .direct recipient content => [.send (.direct (session.letter recipient content now))]
  | .listUsers => [.send (.listUsers session.room)]
  | .switchRoom room => [.send .disconnect, .enter room, .send (.connect session.user room)]

def enter (session : Session) (room : String) : Session :=
  { session with room }

end Session
end ChatRooms
