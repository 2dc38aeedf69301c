import ChatRooms.Server.Turn

/-! What a caller does with a server. A caller that has to wait lets everything else go on first;
time costs nothing, so waiting ends when nobody can go on any more. -/
namespace ChatRooms.Server

def send (visit : Visit) (now : Timestamp) (server : Server) (sender : ClientId)
    (command : Command) : Server × Except SessionError Unit :=
  match server.offer sender command with
  | .ok accepted => (accepted, .ok ())
  | .error .closed => (server, .error .hubGone)
  | .error .full =>
      let waited := server.settle visit now
      match waited.offer sender command with
      | .ok accepted => (accepted, .ok ())
      | .error _ => (waited, .error .hubGone)

def enterRoom (server : Server) (id : ClientId) (room : String) : Server :=
  match server.seat? id with
  | some seat => server.setSeat { seat with session := seat.session.enter room }
  | none => server

def carryOut (visit : Visit) (now : Timestamp) (id : ClientId) :
    List Move → Server → Server × Except SessionError Unit
  | [], server => (server, .ok ())
  | .enter room :: moves, server => carryOut visit now id moves (server.enterRoom id room)
  | .send command :: moves, server =>
      match server.send visit now id command with
      | (sent, .ok ()) => carryOut visit now id moves sent
      | (sent, .error reason) => (sent, .error reason)

def call (visit : Visit) (now : Timestamp) (server : Server) (session : Session) (wish : Wish) :
    Server × Except SessionError Unit :=
  carryOut visit now session.id (session.moves now wish) server

def poll (server : Server) (id : ClientId) : Receipt Event × Server :=
  let (receipt, mail) := server.mail.receive id
  (receipt, server.setMail mail)

def receive (visit : Visit) (now : Timestamp) (server : Server) (id : ClientId) (patient : Bool) :
    Server × Except SessionError Event :=
  match server.poll id with
  | (.message event, taken) => (taken, .ok event)
  | (.disconnected, looked) => (looked, .error .closed)
  | (.empty, looked) =>
      if patient then
        match (looked.settle visit now).poll id with
        | (.message event, taken) => (taken, .ok event)
        | (.disconnected, waited) => (waited, .error .closed)
        | (.empty, waited) => (waited, .error .timedOut)
      else (looked, .error .timedOut)

def receiveUpTo (visit : Visit) (now : Timestamp) (id : ClientId) :
    Nat → Server → Server × List Event × SessionError
  | 0, server => (server, [], .timedOut)
  | count + 1, server =>
      match server.receive visit now id true with
      | (server, .error reason) => (server, [], reason)
      | (server, .ok event) =>
          let (server, events, reason) := receiveUpTo visit now id count server
          (server, event :: events, reason)

/-- Receives until there is an error. After the events that are there, no more can come than the
inbox holds when nobody can go on. -/
def receiveAll (visit : Visit) (now : Timestamp) (server : Server) (id : ClientId) :
    Server × List Event × SessionError :=
  receiveUpTo visit now id
    ((server.mail.box id).queue.length + (server.mail.box id).capacity + 1) server

def shutDown (visit : Visit) (now : Timestamp) (server : Server) : Server :=
  { server with hub := server.hub.raiseStop }.settle visit now

def feed (server : Server) (id : ClientId) (octets : List UInt8) : Server :=
  match server.console? id with
  | some console => server.setConsole (console.feed octets)
  | none => server

def endInput (server : Server) (id : ClientId) : Server :=
  match server.console? id with
  | some console => server.setConsole console.endInput
  | none => server

end ChatRooms.Server
