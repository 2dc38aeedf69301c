import ChatRooms.Proofs.Hub.Service
import ChatRooms.Proofs.Server.Run

/-! What the operations of a server leave of its hub. Only an offer adds to the queue of requests,
and only a turn of the hub takes from it; whatever is done to mailboxes, seats and consoles leaves
the registry alone. -/
namespace ChatRooms

theorem Loop.offer_ok {σ μ : Type} {loop accepted : Loop σ μ} {message : μ}
    (taken : loop.offer message = .ok accepted) :
    accepted.state = loop.state ∧
      accepted.channel.box.queue = loop.channel.box.queue ++ [message] := by
  rcases loop.offer_cases message with ⟨-, closed⟩ | ⟨-, -, room⟩ | ⟨-, -, full⟩
  · cases closed.symm.trans taken
  · cases room.symm.trans taken
    exact ⟨rfl, rfl⟩
  · cases full.symm.trans taken

/-- A turn of the hub starts it, carries out the oldest request, or forgets everything. -/
theorem Loop.turn?_hub {visit : Visit} {now : Timestamp} {loop next : Loop Service Request}
    (turned : loop.turn? (Service.actor visit now) = some next) :
    (next.state.exchange.hub = loop.state.exchange.hub ∧
        next.channel.box.queue = loop.channel.box.queue) ∨
      (∃ request rest, loop.channel.box.queue = request :: rest ∧
        next.channel.box.queue = rest ∧ next.state.exchange.hub =
          (loop.state.exchange.apply visit now request).1.hub) ∨
      (next.state.exchange.hub = loop.state.exchange.hub.reset ∧
        next.channel.box.queue = []) := by
  cases Loop.advances_of_turn? turned with
  | start => exact Or.inl ⟨rfl, rfl⟩
  | handle request rest _ _ queued =>
      exact Or.inr (Or.inl ⟨request, rest, queued, rfl, Service.handle_hub _ _ _ _⟩)
  | finish =>
      exact Or.inr (Or.inr ⟨Service.discard_hub visit now _ loop.channel.box.queue, rfl⟩)

namespace Server

structure Undisturbed (before after : Server) : Prop where
  registry : after.registry = before.registry
  queued : after.queued = before.queued
  nextId : after.nextId = before.nextId

theorem Undisturbed.refl (server : Server) : Undisturbed server server := ⟨rfl, rfl, rfl⟩

theorem Undisturbed.trans {first second third : Server} (one : Undisturbed first second)
    (two : Undisturbed second third) : Undisturbed first third :=
  ⟨two.registry.trans one.registry, two.queued.trans one.queued,
    two.nextId.trans one.nextId⟩

theorem setMail_undisturbed (server : Server) (mail : Mailroom) :
    Undisturbed server (server.setMail mail) := ⟨rfl, rfl, rfl⟩

theorem setSeat_undisturbed (server : Server) (seat : Seat) :
    Undisturbed server (server.setSeat seat) := ⟨rfl, rfl, rfl⟩

theorem setConsole_undisturbed (server : Server) (console : Terminal.Console) :
    Undisturbed server (server.setConsole console) := ⟨rfl, rfl, rfl⟩

theorem advanceConsole_undisturbed (server : Server) (console : Terminal.Console) :
    Undisturbed server (server.advanceConsole console) := by
  unfold advanceConsole
  split <;> exact ⟨rfl, rfl, rfl⟩

@[simp] theorem advanceConsole_seats (server : Server) (console : Terminal.Console) :
    (server.advanceConsole console).seats = server.seats := by
  unfold advanceConsole
  split <;> rfl

@[simp] theorem advanceConsole_consoles (server : Server) (console : Terminal.Console) :
    (server.advanceConsole console).consoles = (server.setConsole console).consoles := by
  unfold advanceConsole
  split <;> rfl

theorem offer_ok {server accepted : Server} {sender : ClientId} {command : Command}
    (taken : server.offer sender command = .ok accepted) :
    accepted.registry = server.registry ∧
      accepted.queued = server.queued ++ [⟨sender, command⟩] ∧
      accepted.nextId = server.nextId ∧ accepted.seats = server.seats ∧
      accepted.consoles = server.consoles := by
  unfold offer at taken
  cases offered : server.hub.offer ⟨sender, command⟩ with
  | error reason => simp [offered, Except.map] at taken
  | ok loop =>
      rw [offered] at taken
      cases taken
      obtain ⟨state, queue⟩ := Loop.offer_ok offered
      refine ⟨?_, queue, rfl, rfl, rfl⟩
      simp [registry, state, Service.share]

theorem newSession?_some {server opened : Server} {user room : String} {session : Session}
    (opens : server.newSession? user room = some (session, opened)) :
    session.id = ⟨server.nextId⟩ ∧ opened.registry = server.registry ∧
      opened.queued = server.queued ∧ opened.nextId = server.nextId + 1 ∧
      opened.seats = server.seats ∧ opened.consoles = server.consoles := by
  obtain ⟨mail, _, same⟩ := Option.map_eq_some_iff.mp opens
  cases same
  exact ⟨rfl, rfl, rfl, rfl, rfl, rfl⟩

theorem newSession?_found {server opened : Server} {user room : String} {session : Session}
    (opens : server.newSession? user room = some (session, opened)) (id : ClientId) :
    opened.seat? id = server.seat? id ∧ opened.console? id = server.console? id := by
  obtain ⟨_, _, _, _, seats, consoles⟩ := newSession?_some opens
  exact ⟨congrArg (List.find? _) seats, congrArg (List.find? _) consoles⟩

def unoccupied (config : Config) : Server :=
  ⟨config, ⟨Service.create config, ⟨⟨config.hubCapacity, [], true⟩, 1⟩, .scheduled, .armed⟩,
    [], [], 2⟩

theorem start?_some {config : Config} {server : Server} (started : start? config = some server) :
    1 ≤ config.hubCapacity ∧ server = unoccupied config := by
  obtain ⟨loop, created, rfl⟩ := Option.map_eq_some_iff.mp started
  obtain ⟨channel, made, rfl⟩ := Option.map_eq_some_iff.mp created
  obtain ⟨box, empty, rfl⟩ := Option.map_eq_some_iff.mp made
  unfold Mailbox.create? at empty
  split at empty
  · rename_i admits
    cases empty
    exact ⟨by simpa using (Bool.and_eq_true_iff.mp admits).1, rfl⟩
  · contradiction

end Server

theorem Venue.start?_some {config : Config} {start : Venue}
    (started : start? config = some start) :
    Server.start? config = some (Server.unoccupied config) ∧
      start = ⟨Server.unoccupied config, fun _ => .shared []⟩ := by
  obtain ⟨server, opens, rfl⟩ := Option.map_eq_some_iff.mp started
  obtain ⟨-, rfl⟩ := Server.start?_some opens
  exact ⟨opens, rfl⟩

end ChatRooms
