import ChatRooms.Proofs.Server.Listing

/-! What an owner finds in an inbox. What was delivered comes out first, the oldest before the
others; an empty inbox is closed exactly if no copy of its address is left, be it with the handle,
in the registry of the hub or in the queue of requests. So it is closed to nobody who could still
speak to the hub, and a console never comes to its end by it. -/
namespace ChatRooms

namespace Server

open Terminal

variable {server after : Server} {id : ClientId} {visit : Visit} {now : Timestamp}

/-- Somebody has a copy of the address of a session: whoever has its handle, the hub as long as the
session is registered, or a request of it that is queued. -/
def hasAddress (server : Server) (id : ClientId) : Bool :=
  server.holds id || server.registry.isRegistered id || server.queued.any (·.sender = id)

theorem hasAddress_eq_false_iff : server.hasAddress id = false ↔ server.holds id = false ∧
    server.registry.isRegistered id = false ∧ ∀ request ∈ server.queued, request.sender ≠ id := by
  simp [hasAddress, and_assoc]

-- Each copy is counted once, so that none is counted exactly if there is none.
theorem Orderly.addresses_eq_zero_iff (orderly : server.Orderly) (id : ClientId) :
    (server.mail.channel id).addresses = 0 ↔ server.hasAddress id = false := by
  have counted : (server.mail.channel id).addresses = server.abroad id +
      if server.registry.isRegistered id then 1 else 0 := orderly.accounted.count id
  rw [counted, hasAddress_eq_false_iff, abroad, Nat.add_eq_zero_iff, Nat.add_eq_zero_iff,
    List.countP_eq_zero]
  simp only [ite_eq_right_iff, Nat.one_ne_zero, imp_false, Bool.not_eq_true, decide_eq_true_eq]
  constructor
  · rintro ⟨⟨unheld, unasked⟩, stranger⟩
    exact ⟨unheld, stranger, unasked⟩
  · rintro ⟨unheld, stranger, unasked⟩
    exact ⟨⟨unheld, unasked⟩, stranger⟩

theorem poll_of_cons {event : Event} {rest : List Event}
    (waiting : (server.mail.box id).queue = event :: rest) :
    (server.poll id).1 = .message event ∧ ((server.poll id).2.mail.box id).queue = rest := by
  have queued : (server.mail.channel id).box.queue = event :: rest := waiting
  have first : (server.mail.channel id).receive = (.message event,
      { server.mail.channel id with
        box := { (server.mail.channel id).box with queue := rest } }) := by
    simp only [Channel.receive, Mailbox.take?, queued]
  refine ⟨by simp only [poll, Mailroom.receive, first], ?_⟩
  have left : (server.poll id).2.mail.channel id = (server.mail.channel id).receive.2 :=
    Mailroom.channel_setChannel_self _ _ _
  rw [Mailroom.box, left, first]

theorem Orderly.poll_of_nil (orderly : server.Orderly) (empty : (server.mail.box id).queue = []) :
    (server.poll id).1 = if server.hasAddress id then .empty else .disconnected := by
  have queued : (server.mail.channel id).box.queue = [] := empty
  have alone := orderly.addresses_eq_zero_iff id
  simp only [poll, Mailroom.receive, Channel.receive, Mailbox.take?, queued]
  cases left : server.hasAddress id with
  | false => simp [alone.mpr left]
  | true => simp [alone, left]

theorem Orderly.poll (orderly : server.Orderly) (id : ClientId) : (server.poll id).2.Orderly :=
  orderly.received id

theorem Turned.orderly (turned : Turned visit now server after) (orderly : server.Orderly) :
    after.Orderly := by
  induction turned with
  | none => exact orderly
  | next turn taken _ ih =>
      obtain ⟨label, passes, -⟩ := turn_passes taken
      exact ih (passes.orderly orderly)

theorem Orderly.shutDown (orderly : server.Orderly) (visit : Visit) (now : Timestamp) :
    (server.shutDown visit now).Orderly :=
  (settle_turned { server with hub := server.hub.raiseStop }).orderly orderly.stop

theorem Staged.unregistered (staged : server.Staged) (finished : server.hub.phase = .finished)
    (id : ClientId) : server.hasAddress id = server.holds id := by
  obtain ⟨cleared, empty⟩ := staged.cleared finished
  have stranger : server.registry.isRegistered id = false := by
    rw [← cleared]
    rfl
  simp [hasAddress, stranger, empty]

end Server

namespace Venue

open Server Terminal

end Venue
end ChatRooms
