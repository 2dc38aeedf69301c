import ChatRooms.Server.Call

/-! Runs of a server with any number of callers. A caller begins calls on its session, goes on with
them move by move, and may abandon them at any time; the hub and the consoles take their turns in
between. An act that cannot take place changes nothing, so every list of acts is a run. -/
namespace ChatRooms

/-- The calls on a session that are in progress, each with the moves that it has left. A call that
changes the room excludes all others. -/
inductive Activity where
  | shared (calls : List (List Move))
  | exclusive (call : List Move)
  deriving DecidableEq, Repr

namespace Activity

def isIdle : Activity → Bool
  | .shared calls => calls.isEmpty
  | .exclusive call => call.isEmpty

def begin? (moves : List Move) : Wish → Activity → Option Activity
  | .switchRoom _, activity => if activity.isIdle then some (.exclusive moves) else none
  | _, .shared calls => some (.shared (calls ++ [moves]))
  | _, .exclusive [] => some (.shared [moves])
  | _, .exclusive (_ :: _) => none

def call : Activity → Nat → List Move
  | .shared calls, index => calls.getD index []
  | .exclusive call, _ => call

def leave : Activity → Nat → List Move → Activity
  | .shared calls, index, [] => .shared (calls.eraseIdx index)
  | .shared calls, index, moves => .shared (calls.set index moves)
  | .exclusive _, _, moves => .exclusive moves

end Activity

def Terminal.Task.move? : Terminal.Task → Option Move
  | .move next => some next
  | _ => none

def Terminal.Console.moves (console : Terminal.Console) : List Move :=
  console.tasks.filterMap Terminal.Task.move?

namespace Server

def registry (server : Server) : Hub :=
  server.hub.state.exchange.hub

def queued (server : Server) : List Request :=
  server.hub.channel.box.queue

end Server

structure Venue where
  server : Server
  activity : ClientId → Activity

namespace Venue

inductive Act where
  | openSession (user room : String)
  | openSessionIn (user room : String)
  | openConsole (user room : String) (mode : Terminal.Mode) (sink : Terminal.Sink)
      (now : Timestamp)
  | begin (caller : ClientId) (now : Timestamp) (wish : Wish)
  | proceed (caller : ClientId) (index : Nat)
  | abandon (caller : ClientId) (index : Nat)
  | turn (visit : Visit) (now : Timestamp) (turn : Turn)
  | poll (owner : ClientId)
  | dropHandle (owner : ClientId)
  | dropInbox (owner : ClientId)
  | feed (console : ClientId) (octets : List UInt8)
  | endInput (console : ClientId)
  | stop

def start? (config : Config) : Option Venue :=
  (Server.start? config).map fun server => ⟨server, fun _ => .shared []⟩

def setActivity (venue : Venue) (id : ClientId) (activity : Activity) : Venue :=
  { venue with activity := fun other => if other = id then activity else venue.activity other }

def openWith (venue : Venue) (opened : Option (Session × Server)) : Venue :=
  match opened with
  | none => venue
  | some (session, server) => { venue with server }.setActivity session.id (.shared [])

def withSeat (venue : Venue) (caller : ClientId) (act : Seat → Venue) : Venue :=
  match (venue.server.seat? caller).filter (·.hasHandle) with
  | none => venue
  | some seat => act seat

def begin (venue : Venue) (caller : ClientId) (now : Timestamp) (wish : Wish) : Venue :=
  venue.withSeat caller fun seat =>
    match (venue.activity caller).begin? (seat.session.moves now wish) wish with
    | none => venue
    | some activity => venue.setActivity caller activity

/-- Makes the next move of a call. A send waits while the mailbox of the hub is full, and ends the
call when the hub is gone. -/
def proceed (venue : Venue) (caller : ClientId) (index : Nat) : Venue :=
  venue.withSeat caller fun _ =>
    let activity := venue.activity caller
    match activity.call index with
    | [] => venue
    | .enter room :: rest =>
        { venue with server := venue.server.enterRoom caller room }.setActivity caller
          (activity.leave index rest)
    | .send command :: rest =>
        match venue.server.offer caller command with
        | .ok server => { venue with server }.setActivity caller (activity.leave index rest)
        | .error .full => venue
        | .error .closed => venue.setActivity caller (activity.leave index [])

def abandon (venue : Venue) (caller : ClientId) (index : Nat) : Venue :=
  venue.withSeat caller fun _ =>
    venue.setActivity caller ((venue.activity caller).leave index [])

/-- Calls borrow the handle, so they are over when it is let go of. -/
def dropHandle (venue : Venue) (caller : ClientId) : Venue :=
  venue.withSeat caller fun _ =>
    { venue with server := venue.server.dropHandle caller }.setActivity caller (.shared [])

def step (venue : Venue) : Act → Venue
  | .openSession user room => venue.openWith (venue.server.openSession? user room)
  | .openSessionIn user room => venue.openWith (venue.server.openSessionIn? user room)
  | .openConsole user room mode sink now =>
      venue.openWith (venue.server.openConsole? user room mode sink now)
  | .begin caller now wish => venue.begin caller now wish
  | .proceed caller index => venue.proceed caller index
  | .abandon caller index => venue.abandon caller index
  | .turn visit now turn =>
      { venue with server := (venue.server.turn? visit now turn).getD venue.server }
  | .poll owner => { venue with server := (venue.server.poll owner).2 }
  | .dropHandle owner => venue.dropHandle owner
  | .dropInbox owner => { venue with server := venue.server.dropInbox owner }
  | .feed console octets => { venue with server := venue.server.feed console octets }
  | .endInput console => { venue with server := venue.server.endInput console }
  | .stop => { venue with server := { venue.server with hub := venue.server.hub.raiseStop } }

def run (venue : Venue) (acts : List Act) : Venue :=
  acts.foldl step venue

@[simp] theorem run_nil (venue : Venue) : venue.run [] = venue := rfl

@[simp] theorem run_cons (venue : Venue) (act : Act) (rest : List Act) :
    venue.run (act :: rest) = (venue.step act).run rest := rfl

theorem run_append (venue : Venue) (first second : List Act) :
    venue.run (first ++ second) = (venue.run first).run second := by
  simp [run]

def parties (venue : Venue) : List (Session × Activity) :=
  venue.server.seats.map (fun seat => (seat.session, venue.activity seat.session.id)) ++
    venue.server.consoles.map fun console => (console.session, .exclusive console.moves)

end Venue
end ChatRooms
