import ChatRooms.Hub.Service
import ChatRooms.Terminal.Console

/-! A running hub with the sessions and consoles that were opened on it. The handle of a session is
the first address of its mailbox; its inbox is open until it is let go of. -/
namespace ChatRooms

structure Seat where
  session : Session
  hasHandle : Bool
  hasInbox : Bool
  deriving DecidableEq, Repr

structure Server where
  config : Config
  hub : Loop Service Request
  seats : List Seat
  consoles : List Terminal.Console
  nextId : Nat

namespace Server

/-- A hub whose task is scheduled, with a stop signal that has not been raised; none when mailboxes
have no such capacity. The hub's mailbox takes the first identity. -/
def start? (config : Config) : Option Server :=
  (Loop.create? (Service.create config) config.hubCapacity).map fun hub =>
    { config, hub := hub.schedule .armed, seats := [], consoles := [], nextId := 2 }

def mail (server : Server) : Mailroom :=
  server.hub.state.exchange.mail

def setMail (server : Server) (mail : Mailroom) : Server :=
  let exchange := { server.hub.state.exchange with mail }
  { server with hub := { server.hub with state := { server.hub.state with exchange } } }

def refused (server : Server) : List Refusal :=
  server.hub.state.refused

def seat? (server : Server) (id : ClientId) : Option Seat :=
  server.seats.find? (·.session.id = id)

def console? (server : Server) (id : ClientId) : Option Terminal.Console :=
  server.consoles.find? (·.session.id = id)

def setSeat (server : Server) (seat : Seat) : Server :=
  { server with seats := server.seats.map fun other =>
      if other.session.id = seat.session.id then seat else other }

def setConsole (server : Server) (console : Terminal.Console) : Server :=
  { server with consoles := server.consoles.map fun other =>
      if other.session.id = console.session.id then console else other }

def letGo (server : Server) (id : ClientId) : Server :=
  server.setMail ((server.mail.release id).close id)

def advanceConsole (server : Server) (console : Terminal.Console) : Server :=
  let updated := server.setConsole console
  if console.hasEnded then updated.letGo console.session.id else updated

def newSession? (server : Server) (user room : String) : Option (Session × Server) :=
  let session : Session := ⟨⟨server.nextId⟩, user, room⟩
  (server.mail.open? session.id server.config.sessionCapacity).map fun mail =>
    (session, { server.setMail mail with nextId := server.nextId + 1 })

def roomOrDefault (server : Server) (room : String) : String :=
  if room.isEmpty then server.config.defaultRoom else room

def openSessionIn? (server : Server) (user room : String) : Option (Session × Server) :=
  (server.newSession? user room).map fun (session, server) =>
    (session, { server with seats := server.seats ++ [⟨session, true, true⟩] })

def openSession? (server : Server) (user room : String) : Option (Session × Server) :=
  server.openSessionIn? user (server.roomOrDefault room)

def openConsole? (server : Server) (user room : String) (mode : Terminal.Mode)
    (sink : Terminal.Sink) (now : Timestamp) : Option (Session × Server) :=
  (server.newSession? user (server.roomOrDefault room)).map fun (session, server) =>
    let console := Terminal.Console.create session mode sink now
    (session, { server with consoles := server.consoles ++ [console] })

def dropHandle (server : Server) (id : ClientId) : Server :=
  match (server.seat? id).filter (·.hasHandle) with
  | some seat =>
      (server.setSeat { seat with hasHandle := false }).setMail (server.mail.release id)
  | none => server

def dropInbox (server : Server) (id : ClientId) : Server :=
  match (server.seat? id).filter (·.hasInbox) with
  | some seat => (server.setSeat { seat with hasInbox := false }).setMail (server.mail.close id)
  | none => server

end Server
end ChatRooms
