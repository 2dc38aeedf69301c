import ChatRooms.Server.Call

/-! A fixed conversation of three users, reported line by line: Alice and Bob meet in the default
room, Carol joins late and gets the history, Bob moves to another room, Alice leaves. It ends early
when an awaited event does not come. -/
namespace ChatRooms.Demo

inductive Role where
  | alice
  | bob
  | carol
  deriving DecidableEq, Repr

def Role.name : Role → String
  | .alice => "alice"
  | .bob => "bob"
  | .carol => "carol"

inductive Scene where
  | heading (text : String)
  | wish (role : Role) (wish : Wish)
  | await (role : Role)
  deriving DecidableEq, Repr

def script : List Scene :=
  [.heading "alice and bob connect",
    .wish .alice .connect,
    .wish .alice .listUsers,
    .await .alice,
    .wish .bob .connect,
    .await .alice,
    .heading "room chat",
    .wish .alice (.post "hello"),
    .await .bob,
    .wish .bob (.post "hey alice"),
    .await .alice,
    .heading "carol joins and sees the history",
    .wish .carol .connect,
    .await .carol,
    .await .carol,
    .await .alice,
    .await .bob,
    .heading "direct message",
    .wish .carol (.direct "alice" "welcome back?"),
    .await .alice,
    .heading "who is online",
    .wish .carol .listUsers,
    .await .carol,
    .heading "bob switches to rust",
    .wish .bob (.switchRoom "rust"),
    .await .alice,
    .await .carol,
    .wish .bob (.post "anyone here?"),
    .heading "alice leaves",
    .wish .alice .disconnect,
    .await .carol,
    .wish .carol .listUsers,
    .await .carol,
    .wish .bob .disconnect,
    .wish .carol .disconnect,
    .heading "demo complete"]

structure Line where
  recipient : Option Role
  text : String
  deriving DecidableEq, Repr

structure Cast where
  alice : ClientId
  bob : ClientId
  carol : ClientId

def Cast.id (cast : Cast) : Role → ClientId
  | .alice => cast.alice
  | .bob => cast.bob
  | .carol => cast.carol

structure Report where
  server : Server
  lines : List Line
  outcome : Except SessionError Unit

def play (visit : Visit) (now : Timestamp) (cast : Cast) (server : Server) (scene : Scene) :
    Server × Except SessionError (List Line) :=
  match scene with
  | .heading text => (server, .ok [⟨none, "=== " ++ text ++ " ==="⟩])
  | .wish role wish =>
      match server.seat? (cast.id role) with
      | none => (server, .error .closed)
      | some seat =>
          match server.call visit now seat.session wish with
          | (server, .ok ()) => (server, .ok [])
          | (server, .error reason) => (server, .error reason)
  | .await role =>
      match server.seat? (cast.id role) with
      | none => (server, .error .closed)
      | some seat =>
          match server.receive visit now (cast.id role) true with
          | (server, .ok event) =>
              (server, .ok [⟨some role, Terminal.render event seat.session.room⟩])
          | (server, .error reason) => (server, .error reason)

def playAll (visit : Visit) (now : Timestamp) (cast : Cast) : List Scene → Server → Report
  | [], server => ⟨server, [], .ok ()⟩
  | scene :: scenes, server =>
      match play visit now cast server scene with
      | (server, .error reason) => ⟨server, [], .error reason⟩
      | (server, .ok lines) =>
          let report := playAll visit now cast scenes server
          { report with lines := lines ++ report.lines }

def enter? (server : Server) : Option (Cast × Server) := do
  let (alice, server) ← server.openSession? Role.alice.name ""
  let (bob, server) ← server.openSession? Role.bob.name ""
  let (carol, server) ← server.openSession? Role.carol.name ""
  return (⟨alice.id, bob.id, carol.id⟩, server)

def leave (cast : Cast) (server : Server) : Server :=
  [cast.alice, cast.bob, cast.carol].foldl
    (fun server id => (server.dropHandle id).dropInbox id) server

def run? (visit : Visit) (now : Timestamp) (config : Config) : Option Report := do
  let server ← Server.start? config
  let (cast, server) ← enter? server
  let report := playAll visit now cast script server
  return { report with server := (leave cast report.server).shutDown visit now }

end ChatRooms.Demo
