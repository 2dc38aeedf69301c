import ChatRooms.Proofs.Hub.Addresses
import ChatRooms.Proofs.Hub.Run
import ChatRooms.Proofs.Server.Consistency
import ChatRooms.Proofs.Server.Deed

/-! What holds between the deeds of a run, whoever does them: a session is in one place at a time, a
mailbox has one address for each of its handle, its registration and its requests that are queued,
and the hub goes on serving until it is told to stop. -/
namespace ChatRooms

structure Loop.Serving {σ μ : Type} (loop : Loop σ μ) : Prop where
  awake : loop.phase = .scheduled ∨ loop.phase = .running
  opened : loop.channel.box.isOpen = true
  roomy : 0 < loop.channel.box.capacity
  addressed : 0 < loop.channel.addresses

namespace Server

open Terminal

def sessionIds (server : Server) : List ClientId :=
  server.seats.map (·.session.id) ++ server.consoles.map (·.session.id)

def holds (server : Server) (id : ClientId) : Bool :=
  (server.seat? id).any (·.hasHandle) || (server.console? id).any fun console => !console.hasEnded

/-- The addresses of a mailbox that are not due to its registration. -/
def abroad (server : Server) (id : ClientId) : Nat :=
  (if server.holds id then 1 else 0) + server.queued.countP (·.sender = id)

structure Orderly (server : Server) : Prop where
  once : server.sessionIds.Nodup
  given : ∀ id ∈ server.sessionIds, id.number < server.nextId
  sound : server.hub.state.exchange.Sound
  accounted : server.hub.state.exchange.Accounted server.abroad
  unknown : ∀ id : ClientId, server.nextId ≤ id.number →
    server.registry.isRegistered id = false ∧ ∀ request ∈ server.queued, request.sender ≠ id
  settled : ∀ console ∈ server.consoles, console.Settled
  serving : server.hub.signal = .armed → server.hub.Serving

/-- Whatever has its key replaced by what it stands for is found where it was. -/
theorem find?_replace {α : Type} (key : α → ClientId) (changed : α) (elements : List α)
    (id : ClientId) :
    (elements.map fun other => if key other = key changed then changed else other).find?
        (key · = id) =
      if key changed = id then (elements.find? (key · = id)).map fun _ => changed
      else elements.find? (key · = id) := by
  induction elements with
  | nil => simp
  | cons element rest ih =>
      rw [List.map_cons, List.find?_cons, ih]
      by_cases replaced : key element = key changed
      · by_cases here : key changed = id <;> simp [replaced, here]
      · rw [if_neg replaced]
        by_cases here : key changed = id
        · simp [here, here ▸ replaced]
        · by_cases first : key element = id <;> simp [here, first]

variable {server after : Server} {id : ClientId} {seat : Seat} {console : Console}

theorem seat_listed (found : server.seat? id = some seat) :
    seat.session.id = id ∧ seat ∈ server.seats :=
  ⟨by simpa using List.find?_some found, List.mem_of_find?_eq_some found⟩

theorem console_listed (found : server.console? id = some console) :
    console.session.id = id ∧ console ∈ server.consoles :=
  ⟨by simpa using List.find?_some found, List.mem_of_find?_eq_some found⟩

theorem Orderly.seat_known (orderly : server.Orderly) (found : server.seat? id = some seat) :
    id.number < server.nextId := by
  obtain ⟨self, listed⟩ := seat_listed found
  exact self ▸ orderly.given _ (List.mem_append_left _ (List.mem_map_of_mem listed))

theorem Orderly.console_known (orderly : server.Orderly)
    (found : server.console? id = some console) : id.number < server.nextId := by
  obtain ⟨self, listed⟩ := console_listed found
  exact self ▸ orderly.given _ (List.mem_append_right _ (List.mem_map_of_mem listed))

-- A session is with a caller or at a console.
theorem Orderly.no_console (orderly : server.Orderly) (found : server.seat? id = some seat) :
    server.console? id = none := by
  obtain ⟨self, listed⟩ := seat_listed found
  cases other : server.console? id with
  | none => rfl
  | some console =>
      obtain ⟨same, present⟩ := console_listed other
      have apart := (List.nodup_append.mp orderly.once).2.2 _ (List.mem_map_of_mem listed) _
        (List.mem_map_of_mem present)
      exact absurd (self.trans same.symm) apart

theorem Orderly.no_seat (orderly : server.Orderly) (found : server.console? id = some console) :
    server.seat? id = none := by
  cases other : server.seat? id with
  | none => rfl
  | some seat =>
      rw [orderly.no_console other] at found
      contradiction

theorem Orderly.holds_of_seat (orderly : server.Orderly) (found : server.seat? id = some seat) :
    server.holds id = seat.hasHandle := by
  simp [holds, found, orderly.no_console found]

theorem Orderly.holds_of_console (orderly : server.Orderly)
    (found : server.console? id = some console) : server.holds id = !console.hasEnded := by
  simp [holds, found, orderly.no_seat found]

-- A handle is one of the addresses of its mailbox.
theorem Orderly.addresses_pos (orderly : server.Orderly) (held : server.holds id = true) :
    0 < server.mail.addresses id := by
  have counted := orderly.accounted.count id
  simp only [abroad, held, ↓reduceIte] at counted
  unfold mail
  omega

theorem seat?_replaced (found : server.seat? id = some seat) {changed : Seat}
    (same : changed.session.id = id) (other : ClientId) :
    (server.setSeat changed).seat? other =
      if id = other then some changed else server.seat? other := by
  have replaced := find?_replace (fun seat : Seat => seat.session.id) changed server.seats other
  simp only [same] at replaced
  rw [seat?, setSeat]
  simp only [same, replaced]
  by_cases here : id = other
  · subst here
    have listed : server.seats.find? (·.session.id = id) = some seat := found
    simp [listed]
  · simp [here, seat?]

theorem console?_replaced (found : server.console? id = some console) {changed : Console}
    (same : changed.session.id = id) (other : ClientId) :
    (server.setConsole changed).console? other =
      if id = other then some changed else server.console? other := by
  have replaced := find?_replace (fun console : Console => console.session.id) changed
    server.consoles other
  simp only [same] at replaced
  rw [console?, setConsole]
  simp only [same, replaced]
  by_cases here : id = other
  · subst here
    have listed : server.consoles.find? (·.session.id = id) = some console := found
    simp [listed]
  · simp [here, console?]

theorem sessionIds_setSeat (server : Server) (changed : Seat) :
    (server.setSeat changed).sessionIds = server.sessionIds :=
  congrArg (· ++ _) (map_replace (fun seat : Seat => seat.session.id) changed server.seats)

theorem sessionIds_setConsole (server : Server) (changed : Console) :
    (server.setConsole changed).sessionIds = server.sessionIds :=
  congrArg (_ ++ ·)
    (map_replace (fun console : Console => console.session.id) changed server.consoles)

theorem holds_setSeat (orderly : server.Orderly) (found : server.seat? id = some seat)
    (changed : Seat) (same : changed.session.id = id) (other : ClientId) :
    (server.setSeat changed).holds other =
      if id = other then changed.hasHandle else server.holds other := by
  have consoles : (server.setSeat changed).console? other = server.console? other := rfl
  rw [holds, seat?_replaced found same, consoles]
  by_cases here : id = other
  · subst here
    simp [orderly.no_console found]
  · simp [here, holds]

theorem holds_setConsole (orderly : server.Orderly) (found : server.console? id = some console)
    {changed : Console} (same : changed.session.id = id) (other : ClientId) :
    (server.setConsole changed).holds other =
      if id = other then !changed.hasEnded else server.holds other := by
  have seats : (server.setConsole changed).seat? other = server.seat? other := rfl
  rw [holds, console?_replaced found same, seats]
  by_cases here : id = other
  · subst here
    simp [orderly.no_seat found]
  · simp [here, holds]

/-- A change away from the hub, which sees to the addresses of the handles that it takes away. -/
theorem Orderly.aside (orderly : server.Orderly)
    (loop : after.hub = { server.hub with state := after.hub.state })
    (registry : after.registry = server.registry) (nextId : after.nextId = server.nextId)
    (ids : after.sessionIds.Perm server.sessionIds)
    (addresses : ∀ id, after.mail.addresses id + (if server.holds id then 1 else 0) =
      server.mail.addresses id + if after.holds id then 1 else 0)
    (settled : ∀ console ∈ after.consoles, console.Settled) : after.Orderly where
  once := ids.nodup_iff.mpr orderly.once
  given := by
    intro id listed
    rw [nextId]
    exact orderly.given id (ids.mem_iff.mp listed)
  sound := by
    have same : after.hub.state.exchange.hub = server.hub.state.exchange.hub := registry
    exact ⟨same ▸ orderly.sound.keyed, same ▸ orderly.sound.swept, same ▸ orderly.sound.filed⟩
  accounted := by
    have same : after.hub.state.exchange.hub = server.hub.state.exchange.hub := registry
    refine ⟨same ▸ orderly.accounted.keyed, fun id => ?_⟩
    have before := orderly.accounted.count id
    have changed := addresses id
    have queued : after.queued = server.queued := by rw [queued, loop]; rfl
    unfold mail at changed
    simp only [abroad, queued, same] at before changed ⊢
    omega
  unknown := by
    intro id fresh
    have queued : after.queued = server.queued := by rw [queued, loop]; rfl
    rw [nextId] at fresh
    rw [registry, queued]
    exact orderly.unknown id fresh
  settled := settled
  serving := by
    rw [loop]
    intro armed
    obtain ⟨awake, opened, roomy, addressed⟩ := orderly.serving armed
    exact ⟨awake, opened, roomy, addressed⟩

end Server
end ChatRooms
