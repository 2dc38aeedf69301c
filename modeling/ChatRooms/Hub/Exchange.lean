import ChatRooms.Hub.Basic

/-! What the hub does with a request. Deliveries never wait: a full mailbox loses the event, and a
closed one puts its client on the list of those to be removed when the request has been carried
out. Removing a client is announced like a departure, which can find further closed mailboxes.

Nothing is said about the order in which the registered clients are visited; it is a parameter. -/
namespace ChatRooms

/-- An order of visiting the members, which may be another one whenever the members change. -/
structure Visit where
  arrange : List Member → List Member
  perm : ∀ members, (arrange members).Perm members

def Visit.enrolled : Visit := ⟨id, fun _ => List.Perm.refl _⟩

structure Exchange where
  hub : Hub
  mail : Mailroom

namespace Exchange

def create (config : Config) : Exchange :=
  ⟨Hub.create config, Mailroom.empty⟩

def deliver (exchange : Exchange) (client : ClientId) (event : Event) : Exchange :=
  match (exchange.mail.box client).offer event with
  | .ok box => { exchange with mail := exchange.mail.setBox client box }
  | .error .full => exchange
  | .error .closed =>
      { exchange with hub := { exchange.hub with closed := client :: exchange.hub.closed } }

def deliverAll (exchange : Exchange) (client : ClientId) (events : List Event) : Exchange :=
  events.foldl (fun exchange event => exchange.deliver client event) exchange

def audience (visit : Visit) (hub : Hub) (room : String) (absent : ClientId) : List ClientId :=
  ((visit.arrange hub.members).filter fun member =>
    member.id ≠ absent && member.room = room).map (·.handle)

def announce (visit : Visit) (exchange : Exchange) (room : String) (absent : ClientId)
    (event : Event) : Exchange :=
  (audience visit exchange.hub room absent).foldl
    (fun exchange client => exchange.deliver client event) exchange

def enroll (exchange : Exchange) (member : Member) : Exchange :=
  ⟨exchange.hub.enroll member, exchange.mail.share member.handle⟩

def strike (exchange : Exchange) (member : Member) : Exchange :=
  ⟨exchange.hub.strike member.id, exchange.mail.release member.handle⟩

def depart (visit : Visit) (now : Timestamp) (exchange : Exchange) (member : Member) : Exchange :=
  announce visit (exchange.strike member) member.room member.id
    (Event.left member.name member.room now)

def nextClosed? (hub : Hub) : Option (Member × List ClientId) :=
  match hub.closed.dropWhile (fun id => !hub.isRegistered id) with
  | [] => none
  | id :: rest => (hub.member? id).map (·, rest)

def pruneRounds (visit : Visit) (now : Timestamp) : Nat → Exchange → Exchange
  | 0, exchange => { exchange with hub := { exchange.hub with closed := [] } }
  | rounds + 1, exchange =>
      match nextClosed? exchange.hub with
      | none => { exchange with hub := { exchange.hub with closed := [] } }
      | some (member, rest) =>
          pruneRounds visit now rounds
            (depart visit now { exchange with hub := { exchange.hub with closed := rest } } member)

/-- Removes the clients found closed, and those found closed on the way. No client is removed
twice, so there is a round for each member. -/
def prune (visit : Visit) (now : Timestamp) (exchange : Exchange) : Exchange :=
  pruneRounds visit now exchange.hub.members.length exchange

def connect (visit : Visit) (now : Timestamp) (exchange : Exchange) (sender : ClientId)
    (user room : String) : Except Refusal Exchange :=
  if exchange.hub.isRegistered sender then .error (.alreadyConnected sender)
  else
    let room := exchange.hub.roomOrDefault room
    let replayed := exchange.deliverAll sender ((exchange.hub.history.recent room).map .broadcast)
    .ok (announce visit (replayed.enroll ⟨sender, sender, user, room⟩) room sender
      (Event.joined user room now))

def disconnect (visit : Visit) (now : Timestamp) (exchange : Exchange) (sender : ClientId) :
    Except Refusal Exchange :=
  match exchange.hub.member? sender with
  | none => .error (.strangerDisconnects sender)
  | some member => .ok (depart visit now exchange member)

def post (visit : Visit) (now : Timestamp) (exchange : Exchange) (sender : ClientId)
    (content room : String) : Except Refusal Exchange :=
  match exchange.hub.member? sender with
  | none => .error (.strangerPosts sender)
  | some member =>
      let room := if room.isEmpty then member.room else room
      let post : Broadcast := ⟨member.name, content, room, now⟩
      .ok (announce visit { exchange with hub := exchange.hub.record post } room sender
        (.broadcast post))

def direct (visit : Visit) (now : Timestamp) (exchange : Exchange) (letter : DirectMessage) :
    Except Refusal Exchange :=
  match (visit.arrange exchange.hub.members).find? (·.name = letter.recipient) with
  | none => .error (.noSuchUser letter.recipient)
  | some member => .ok (exchange.deliver member.handle (.direct { letter with sentAt := now }))

def listUsers (visit : Visit) (exchange : Exchange) (sender : ClientId) (room : String) :
    Exchange :=
  let room := exchange.hub.roomOrDefault room
  let names := ((visit.arrange exchange.hub.members).filter (·.room = room)).map (·.name)
  exchange.deliver sender (.users names)

def execute (visit : Visit) (now : Timestamp) (exchange : Exchange) (request : Request) :
    Except Refusal Exchange :=
  match request.command with
  | .connect user room => exchange.connect visit now request.sender user room
  | .disconnect => exchange.disconnect visit now request.sender
  | .post _ content room => exchange.post visit now request.sender content room
  | .direct letter => exchange.direct visit now letter
  | .listUsers room => .ok (exchange.listUsers visit request.sender room)

def apply (visit : Visit) (now : Timestamp) (exchange : Exchange) (request : Request) :
    Exchange × Except Refusal Unit :=
  match exchange.execute visit now request with
  | .ok carried => (prune visit now carried, .ok ())
  | .error refusal => (prune visit now exchange, .error refusal)

def reset (exchange : Exchange) : Exchange :=
  ⟨exchange.hub.reset,
    exchange.hub.members.foldl (fun mail member => mail.release member.handle) exchange.mail⟩

end Exchange
end ChatRooms
