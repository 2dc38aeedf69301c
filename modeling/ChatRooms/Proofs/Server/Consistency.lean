import ChatRooms.Proofs.Server.Accord
import Mathlib.Data.List.Nodup

/-! What holds of a server and its callers between the acts of a run: every session is in accord
with the hub. An act concerns one session at most and spares the others, so it keeps this if it
keeps the accord of that one. -/
namespace ChatRooms

variable {config : Config}

/-- What holds between the acts of a run. An identity that has not been given out is foretold to be
absent, like a session that changes room. -/
structure Consistent (config : Config) (venue : Venue) : Prop where
  defaultRoom : venue.server.registry.defaultRoom = config.defaultRoom
  once : (venue.parties.map (·.1.id)).Nodup
  known : ∀ party ∈ venue.parties, party.1.id.number < venue.server.nextId
  accords : ∀ party ∈ venue.parties, Accords config venue.server party.1 party.2
  unopened : ∀ id : ClientId, venue.server.nextId ≤ id.number →
    Foretold (fun _ => false) venue.server.registry venue.server.queued id

structure Spares (before after : Server) (id : ClientId) : Prop where
  defaultRoom : after.registry.defaultRoom = before.registry.defaultRoom
  nextId : after.nextId = before.nextId
  foretold : ∀ fits other, other ≠ id → Foretold fits before.registry before.queued other →
    Foretold fits after.registry after.queued other

theorem Server.Undisturbed.spares {before after : Server}
    (undisturbed : Server.Undisturbed before after) (id : ClientId) : Spares before after id where
  defaultRoom := by rw [undisturbed.registry]
  nextId := undisturbed.nextId
  foretold := by
    intro fits other _ foretold
    rw [undisturbed.registry, undisturbed.queued]
    exact foretold

theorem spares_of_offer {server accepted : Server} {id : ClientId} {command : Command}
    (taken : server.offer id command = .ok accepted) : Spares server accepted id := by
  obtain ⟨registry, queued, nextId, _⟩ := Server.offer_ok taken
  refine ⟨by rw [registry], nextId, ?_⟩
  intro fits other apart foretold
  rw [registry, queued]
  exact foretold.push_other command apart.symm

-- Seats and consoles are both put back in place of those with the same identity.
theorem of_mem_replace {α β : Type} [DecidableEq β] (key : α → β) {changed element : α}
    {elements : List α}
    (listed : element ∈ elements.map fun other =>
      if key other = key changed then changed else other) :
    element = changed ∨ (key element ≠ key changed ∧ element ∈ elements) := by
  obtain ⟨before, present, same⟩ := List.mem_map.mp listed
  by_cases hit : key before = key changed
  · exact Or.inl (by simpa [hit] using same.symm)
  · rw [if_neg hit] at same
    exact Or.inr (same ▸ ⟨hit, present⟩)

theorem map_replace {α β : Type} [DecidableEq β] (key : α → β) (changed : α)
    (elements : List α) :
    (elements.map fun other => if key other = key changed then changed else other).map key =
      elements.map key := by
  rw [List.map_map]
  apply List.map_congr_left
  intro other _
  simp only [Function.comp_apply]
  split
  · rename_i hit
    exact hit.symm
  · rfl

namespace Venue

variable {venue next : Venue} {id : ClientId} {seat : Seat} {console : Terminal.Console}

theorem parties_ids (venue : Venue) : venue.parties.map (·.1.id) =
    venue.server.seats.map (·.session.id) ++ venue.server.consoles.map (·.session.id) := by
  simp [parties, Function.comp_def]

theorem seat_found (found : venue.server.seat? id = some seat) :
    seat.session.id = id ∧ seat ∈ venue.server.seats ∧
      (seat.session, venue.activity id) ∈ venue.parties := by
  have self : seat.session.id = id := by simpa using List.find?_some found
  have seated := List.mem_of_find?_eq_some found
  refine ⟨self, seated, List.mem_append_left _ ?_⟩
  exact List.mem_map.mpr ⟨seat, seated, by rw [self]⟩

theorem console_found (found : venue.server.console? id = some console) :
    console.session.id = id ∧ console ∈ venue.server.consoles ∧
      (console.session, .exclusive console.moves) ∈ venue.parties := by
  have listed := List.mem_of_find?_eq_some found
  exact ⟨by simpa using List.find?_some found, listed,
    List.mem_append_right _ (List.mem_map_of_mem listed)⟩

theorem seat_ne_console (once : (venue.parties.map (·.1.id)).Nodup)
    (seated : seat ∈ venue.server.seats) (listed : console ∈ venue.server.consoles) :
    seat.session.id ≠ console.session.id := by
  rw [parties_ids] at once
  intro same
  exact (List.nodup_append.mp once).2.2 _ (List.mem_map_of_mem seated) _
    (List.mem_map_of_mem listed) same

/-- An act of one session, which keeps all that is foretold of the others. -/
theorem consistent_of_one {session : Session} {activity : Activity}
    (consistent : Consistent config venue) (known : session.id.number < venue.server.nextId)
    (spares : Spares venue.server next.server session.id)
    (ids : next.parties.map (·.1.id) = venue.parties.map (·.1.id))
    (parties : ∀ party ∈ next.parties, party = (session, activity) ∨
      (party.1.id ≠ session.id ∧ party ∈ venue.parties))
    (own : Accords config next.server session activity) : Consistent config next where
  defaultRoom := spares.defaultRoom.trans consistent.defaultRoom
  once := by
    rw [ids]
    exact consistent.once
  known := by
    intro party listed
    rw [spares.nextId]
    rcases parties party listed with rfl | ⟨_, before⟩
    · exact known
    · exact consistent.known party before
  accords := by
    intro party listed
    rcases parties party listed with rfl | ⟨apart, before⟩
    · exact own
    · exact (consistent.accords party before).frame fun fits => spares.foretold fits _ apart
  unopened := by
    intro other fresh
    rw [spares.nextId] at fresh
    apply spares.foretold
    · rintro rfl
      omega
    · exact consistent.unopened other fresh

theorem consistent_of_seat (changed : Seat) (consistent : Consistent config venue)
    (found : venue.server.seat? id = some seat) (same : changed.session.id = id)
    (seats : next.server.seats = (venue.server.setSeat changed).seats)
    (consoles : next.server.consoles = venue.server.consoles)
    (activity : ∀ other, other ≠ id → next.activity other = venue.activity other)
    (spares : Spares venue.server next.server id)
    (own : Accords config next.server changed.session (next.activity id)) :
    Consistent config next := by
  subst same
  obtain ⟨self, seated, party⟩ := seat_found found
  have known := consistent.known _ party
  rw [self] at known
  refine consistent_of_one consistent known spares ?_ ?_ own
  · rw [parties_ids, parties_ids, seats, consoles]
    congr 1
    exact map_replace (·.session.id) changed venue.server.seats
  · intro party listed
    rcases List.mem_append.mp listed with in_seat | in_console
    · obtain ⟨other, present, rfl⟩ := List.mem_map.mp in_seat
      rw [seats] at present
      rcases of_mem_replace (fun seat : Seat => seat.session.id) present with
        rfl | ⟨apart, before⟩
      · exact Or.inl rfl
      · rw [activity _ apart]
        exact Or.inr ⟨apart, List.mem_append_left _ (List.mem_map.mpr ⟨other, before, rfl⟩)⟩
    · rw [consoles] at in_console
      obtain ⟨console, present, rfl⟩ := List.mem_map.mp in_console
      have apart := seat_ne_console consistent.once seated present
      exact Or.inr ⟨self ▸ apart.symm, List.mem_append_right _ in_console⟩

theorem consistent_of_console (changed : Terminal.Console)
    (consistent : Consistent config venue)
    (found : venue.server.console? id = some console) (same : changed.session.id = id)
    (seats : next.server.seats = venue.server.seats)
    (consoles : next.server.consoles = (venue.server.setConsole changed).consoles)
    (activity : next.activity = venue.activity)
    (spares : Spares venue.server next.server id)
    (own : Accords config next.server changed.session (.exclusive changed.moves)) :
    Consistent config next := by
  subst same
  obtain ⟨self, listed_console, party⟩ := console_found found
  have known := consistent.known _ party
  rw [self] at known
  refine consistent_of_one consistent known spares ?_ ?_ own
  · rw [parties_ids, parties_ids, seats, consoles]
    congr 1
    exact map_replace (·.session.id) changed venue.server.consoles
  · intro party listed
    rcases List.mem_append.mp listed with in_seat | in_console
    · rw [seats, activity] at in_seat
      obtain ⟨other, present, rfl⟩ := List.mem_map.mp in_seat
      have apart := seat_ne_console consistent.once present listed_console
      exact Or.inr ⟨self ▸ apart, List.mem_append_left _ in_seat⟩
    · obtain ⟨other, present, rfl⟩ := List.mem_map.mp in_console
      rw [consoles] at present
      rcases of_mem_replace (fun console : Terminal.Console => console.session.id) present with
        rfl | ⟨apart, before⟩
      · exact Or.inl rfl
      · exact Or.inr ⟨apart, List.mem_append_right _ (List.mem_map.mpr ⟨other, before, rfl⟩)⟩

-- An act of nobody in particular, which keeps all that is foretold of anybody.
theorem consistent_of_none (consistent : Consistent config venue)
    (parties : next.parties = venue.parties)
    (defaultRoom : next.server.registry.defaultRoom = venue.server.registry.defaultRoom)
    (nextId : next.server.nextId = venue.server.nextId)
    (keeps : ∀ fits other, Foretold fits venue.server.registry venue.server.queued other →
      Foretold fits next.server.registry next.server.queued other) :
    Consistent config next where
  defaultRoom := defaultRoom.trans consistent.defaultRoom
  once := by
    rw [parties]
    exact consistent.once
  known := by
    rw [parties, nextId]
    exact consistent.known
  accords := by
    rw [parties]
    intro party listed
    exact (consistent.accords party listed).frame fun fits => keeps fits _
  unopened := by
    intro other fresh
    rw [nextId] at fresh
    exact keeps _ other (consistent.unopened other fresh)

-- A new party, under an identity that has not been given out.
theorem consistent_of_newcomer {session : Session} {activity : Activity}
    (consistent : Consistent config venue) (fresh : session.id = ⟨venue.server.nextId⟩)
    (registry : next.server.registry = venue.server.registry)
    (queued : next.server.queued = venue.server.queued)
    (nextId : next.server.nextId = venue.server.nextId + 1)
    (ids : (next.parties.map (·.1.id)).Perm (session.id :: venue.parties.map (·.1.id)))
    (parties : ∀ party ∈ next.parties, party = (session, activity) ∨ party ∈ venue.parties)
    (proper : ∀ absent, Proper session absent activity) : Consistent config next where
  defaultRoom := by
    rw [registry]
    exact consistent.defaultRoom
  once := by
    rw [ids.nodup_iff, List.nodup_cons]
    refine ⟨?_, consistent.once⟩
    intro taken
    obtain ⟨party, listed, same⟩ := List.mem_map.mp taken
    have known := consistent.known party listed
    rw [same, fresh] at known
    exact absurd known (Nat.lt_irrefl _)
  known := by
    intro party listed
    rw [nextId]
    rcases parties party listed with rfl | before
    · rw [fresh]
      exact Nat.lt_succ_self _
    · exact Nat.lt_succ_of_lt (consistent.known party before)
  accords := by
    intro party listed
    rcases parties party listed with rfl | before
    -- Being foretold to be absent is being foretold to be anything.
    · have absent := consistent.unopened session.id (Nat.le_of_eq (by rw [fresh]))
      rw [← registry, ← queued] at absent
      exact ⟨absent.weaken (by simp), proper _⟩
    · apply (consistent.accords party before).frame
      intro fits foretold
      rwa [registry, queued]
  unopened := by
    intro id later
    rw [registry, queued]
    exact consistent.unopened id (by omega)

theorem ne_newcomer {session : Session} {party : Session × Activity}
    (consistent : Consistent config venue) (fresh : session.id = ⟨venue.server.nextId⟩)
    (listed : party ∈ venue.parties) : party.1.id ≠ session.id := by
  intro same
  have known := consistent.known party listed
  rw [same, fresh] at known
  exact absurd known (Nat.lt_irrefl _)

theorem setSeat_self (once : (venue.parties.map (·.1.id)).Nodup)
    (found : venue.server.seat? id = some seat) :
    (venue.server.setSeat seat).seats = venue.server.seats := by
  obtain ⟨self, seated, _⟩ := seat_found found
  rw [parties_ids] at once
  unfold Server.setSeat
  conv_rhs => rw [← List.map_id venue.server.seats]
  apply List.map_congr_left
  intro other listed
  split
  · rename_i same
    exact List.inj_on_of_nodup_map once.of_append_left seated listed same.symm
  · rfl

theorem consistent_of_withSeat {act : Seat → Venue} (consistent : Consistent config venue)
    (acts : ∀ seat, venue.server.seat? id = some seat → Consistent config (act seat)) :
    Consistent config (venue.withSeat id act) := by
  unfold withSeat
  split
  · exact consistent
  · rename_i seat filtered
    exact acts seat (Option.filter_eq_some_iff.mp filtered).1

-- An act that changes only what is in progress on a session, or sends something for it.
theorem consistent_of_activity {server : Server} {activity : Activity}
    (consistent : Consistent config venue) (found : venue.server.seat? id = some seat)
    (seats : server.seats = venue.server.seats)
    (consoles : server.consoles = venue.server.consoles)
    (spares : Spares venue.server server id)
    (own : Accords config server seat.session activity) :
    Consistent config ({ venue with server }.setActivity id activity) := by
  refine consistent_of_seat seat consistent found (seat_found found).1 ?_ consoles ?_ spares ?_
  · rw [setSeat_self consistent.once found]
    exact seats
  · intro other apart
    simp [setActivity, apart]
  · simpa [setActivity] using own

theorem accords_of_seat (consistent : Consistent config venue)
    (found : venue.server.seat? id = some seat) :
    Accords config venue.server seat.session (venue.activity id) :=
  consistent.accords _ (seat_found found).2.2

theorem accords_of_console (consistent : Consistent config venue)
    (found : venue.server.console? id = some console) :
    Accords config venue.server console.session (.exclusive console.moves) :=
  consistent.accords _ (console_found found).2.2

end Venue
end ChatRooms
