import ChatRooms.Server.Basic

/-! The single steps of a running server, and a schedule of them. Any order of turns is a run; the
schedule lets the hub and then every console go on until it has to wait, and does so until nobody
can go on. A console prefers a line of its input to an event. -/
namespace ChatRooms

inductive Turn where
  | hub
  | task (console : ClientId)
  | line (console : ClientId)
  | event (console : ClientId)
  deriving DecidableEq, Repr

namespace Server

open Terminal

/-- Hands a request to the hub without waiting. It takes a copy of the sender's address along. -/
def offer (server : Server) (sender : ClientId) (command : Command) :
    Except MailboxError Server :=
  (server.hub.offer ⟨sender, command⟩).map fun hub =>
    { server with hub := { hub with state := hub.state.share sender } }

def hubTurn? (visit : Visit) (now : Timestamp) (server : Server) : Option Server :=
  (server.hub.turn? (Service.actor visit now)).map fun hub => { server with hub }

def taskTurn? (server : Server) (console : Console) : Option Server :=
  match console.tasks with
  | [] => none
  | task :: tasks =>
      let next := { console with tasks }
      match task with
      | .move (.enter room) => some (server.advanceConsole (next.enter room))
      | .write text => some (server.advanceConsole (next.write text))
      | .endLine => some (server.advanceConsole (next.put "\n"))
      | .prompt => some (server.advanceConsole (next.put (prompt next.session)))
      | .finish => some (server.advanceConsole next.finish)
      | .move (.send command) =>
          match server.offer console.session.id command with
          | .ok accepted => some (accepted.advanceConsole next)
          | .error .full => none
          | .error .closed =>
              some (server.advanceConsole (next.conclude (.error (.session .hubGone))))

def lineTurn? (now : Timestamp) (server : Server) (console : Console) : Option Server :=
  (console.readLine? now).map server.advanceConsole

def eventTurn? (server : Server) (console : Console) : Option Server :=
  match server.mail.receive console.session.id with
  | (.message event, mail) => some ((server.setMail mail).advanceConsole (console.take event))
  | (.empty, _) => none
  | (.disconnected, _) => some (server.advanceConsole console.finish)

def idleConsole? (server : Server) (id : ClientId) : Option Console :=
  (server.console? id).filter fun console => !console.hasEnded && console.tasks.isEmpty

def turn? (visit : Visit) (now : Timestamp) (server : Server) : Turn → Option Server
  | .hub => server.hubTurn? visit now
  | .task id => (server.console? id).bind server.taskTurn?
  | .line id => (server.idleConsole? id).bind (server.lineTurn? now)
  | .event id => (server.idleConsole? id).bind server.eventTurn?

def consoleTurn? (visit : Visit) (now : Timestamp) (server : Server) (id : ClientId) :
    Option Server :=
  (server.turn? visit now (.task id)).or
    ((server.turn? visit now (.line id)).or (server.turn? visit now (.event id)))

def consoleTurns (visit : Visit) (now : Timestamp) (id : ClientId) : Nat → Server → Server
  | 0, server => server
  | count + 1, server =>
      match server.consoleTurn? visit now id with
      | none => server
      | some next => consoleTurns visit now id count next

/-- Lets the console go on until it has to wait. An event takes a turn to read and three tasks. -/
def runConsole (visit : Visit) (now : Timestamp) (server : Server) (id : ClientId) : Server :=
  match server.console? id with
  | none => server
  | some console =>
      consoleTurns visit now id
        (console.workload + 4 * (server.mail.box id).queue.length) server

def runHub (visit : Visit) (now : Timestamp) (server : Server) : Server :=
  { server with hub := server.hub.settle (Service.actor visit now) }

def round (visit : Visit) (now : Timestamp) (server : Server) : Server :=
  let ids := server.consoles.map (·.session.id)
  ids.foldl (runConsole visit now) (server.runHub visit now)

def isIdle (visit : Visit) (now : Timestamp) (server : Server) : Bool :=
  (server.hubTurn? visit now).isNone &&
    server.consoles.all fun console => (server.consoleTurn? visit now console.session.id).isNone

def rounds (visit : Visit) (now : Timestamp) : Nat → Server → Server
  | 0, server => server
  | count + 1, server =>
      if server.isIdle visit now then server else rounds visit now count (server.round visit now)

/-- No less than the number of requests that are queued or will be sent without further input. -/
def workload (server : Server) : Nat :=
  server.hub.channel.box.queue.length + (server.consoles.map Console.workload).foldr Nat.add 0

/-- Lets everybody go on until all have to wait. Every round but the first two handles a request. -/
def settle (visit : Visit) (now : Timestamp) (server : Server) : Server :=
  rounds visit now (server.workload + 2) server

end Server
end ChatRooms
