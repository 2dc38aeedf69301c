import ChatRooms.Proofs.Server.ClientSide

/-! What becomes of the requests and of the events. A request that the hub accepts waits until it is
carried out, in the order of acceptance, or is lost when the hub stops; an event that is delivered
waits in its mailbox until it is received, in the order of delivery, or the mailbox is let go of. -/
namespace ChatRooms

theorem Service.handle_box (visit : Visit) (now : Timestamp) (service : Service)
    (request : Request) (id : ClientId) :
    (service.handle visit now request).exchange.mail.box id =
      (service.exchange.apply visit now request).1.mail.box id := by
  rw [handle_exchange]
  exact Mailroom.box_release _ _ _

namespace Server

variable {server after : Server} {visit : Visit} {now : Timestamp}

def accepted (before after : Server) : List Request :=
  after.queued.drop before.queued.length

def applied (server : Server) : List Request :=
  if server.hub.phase = .running ∧ server.hub.signal ≠ .raised then server.queued.head?.toList
  else []

def lost (server : Server) : List Request :=
  if server.hub.phase = .running ∧ server.hub.signal = .raised then server.queued else []

theorem Elsewhere.delivered {heard : ClientId → List Event} (away : Elsewhere heard server after)
    (id : ClientId) : server.delivered id after = [] := by
  apply List.drop_eq_nil_of_le
  rcases away.boxes id with shelved | ⟨-, -, empty, -⟩
  · exact shelved.shrinks
  · rw [empty]
    exact Nat.zero_le _

inductive HubTurn (visit : Visit) (now : Timestamp) (server : Server) : Server → Prop where
  | waits (nothing : server.applied = []) (kept : server.lost = []) :
      HubTurn visit now server server
  | start (scheduled : server.hub.phase = .scheduled) :
      HubTurn visit now server { server with hub := { server.hub with phase := .running } }
  | handle (request : Request) (rest : List Request) (running : server.hub.phase = .running)
      (untold : server.hub.signal ≠ .raised) (waiting : server.queued = request :: rest) :
      HubTurn visit now server { server with hub := { server.hub with
        state := server.hub.state.handle visit now request
        channel := { server.hub.channel with
          box := { server.hub.channel.box with queue := rest } } } }
  | finish (running : server.hub.phase = .running)
      (ended : server.hub.signal = .raised ∨
        (server.hub.channel.addresses = 0 ∧ server.queued = [])) :
      HubTurn visit now server { server with hub := server.hub.finish (Service.actor visit now) }

-- A hub that cannot have a turn has nothing to do, or is done.
theorem hubTurn_of_none (stuck : server.hubTurn? visit now = none) :
    HubTurn visit now server server := by
  have waits := Option.map_eq_none_iff.mp stuck
  refine .waits ?_ ?_
  · unfold applied
    split
    · rename_i awake
      cases waiting : server.queued with
      | nil => rfl
      | cons request rest =>
          rw [Loop.turn?_of_message awake.1 awake.2 waiting] at waits
          contradiction
    · rfl
  · unfold lost
    split
    · rename_i told
      rw [Loop.turn?_of_finish told.1 (Or.inl told.2)] at waits
      contradiction
    · rfl

theorem hubTurn_of_some (turned : server.hubTurn? visit now = some after) :
    HubTurn visit now server after := by
  obtain ⟨loop, advanced, rfl⟩ := Option.map_eq_some_iff.mp turned
  cases Loop.advances_of_turn? advanced with
  | start scheduled => exact .start scheduled
  | handle request rest running untold queued => exact .handle request rest running untold queued
  | finish running ended => exact .finish running ended

theorem hubTurn_getD (visit : Visit) (now : Timestamp) (server : Server) :
    HubTurn visit now server ((server.hubTurn? visit now).getD server) := by
  cases turned : server.hubTurn? visit now with
  | none => exact hubTurn_of_none turned
  | some after => exact hubTurn_of_some turned

theorem accepted_of_queued (same : after.queued = server.queued) : server.accepted after = [] := by
  simp [accepted, same]

theorem applied_of_running (running : server.hub.phase = .running)
    (untold : server.hub.signal ≠ .raised) : server.applied = server.queued.head?.toList :=
  if_pos ⟨running, untold⟩

theorem lost_of_told (running : server.hub.phase = .running) (told : server.hub.signal = .raised) :
    server.lost = server.queued :=
  if_pos ⟨running, told⟩

theorem idle_of_phase (elsewhere : server.hub.phase ≠ .running) :
    server.applied = [] ∧ server.lost = [] :=
  ⟨if_neg fun both => elsewhere both.1, if_neg fun both => elsewhere both.1⟩

theorem accepted_of_shorter (shorter : after.queued.length ≤ server.queued.length) :
    server.accepted after = [] :=
  List.drop_eq_nil_of_le shorter

theorem applied_of_ended (ended : server.hub.signal = .raised ∨
    (server.hub.channel.addresses = 0 ∧ server.queued = [])) : server.applied = [] := by
  rcases ended with raised | ⟨-, empty⟩
  · exact if_neg fun untold => untold.2 raised
  · unfold applied
    rw [empty]
    split <;> rfl

theorem finish_box (visit : Visit) (now : Timestamp) (server : Server) (id : ClientId) :
    (server.hub.finish (Service.actor visit now)).state.exchange.mail.box id =
      server.mail.box id :=
  (box_discard visit now _ server.queued id).trans (Exchange.box_reset _ id)

/-- What waited and what is carried out, lost or still waiting are the same requests. -/
theorem HubTurn.requests (turn : HubTurn visit now server after) :
    server.accepted after = [] ∧
      server.queued = server.applied ++ server.lost ++ after.queued := by
  cases turn with
  | waits nothing kept => exact ⟨accepted_of_shorter (Nat.le_refl _), by rw [nothing, kept]; rfl⟩
  | start scheduled =>
      obtain ⟨nothing, kept⟩ := @idle_of_phase server (by rw [scheduled]; decide)
      exact ⟨accepted_of_shorter (Nat.le_refl _), by rw [nothing, kept]; rfl⟩
  | handle request rest running untold waiting =>
      have kept : server.lost = [] := if_neg fun told => untold told.2
      refine ⟨accepted_of_shorter ?_, ?_⟩
      · rw [waiting]
        exact Nat.le_succ _
      · rw [applied_of_running running untold, kept, waiting]
        rfl
  | finish running ended =>
      refine ⟨accepted_of_shorter (Nat.zero_le _), ?_⟩
      rw [applied_of_ended ended]
      rcases ended with told | ⟨-, empty⟩
      · rw [lost_of_told running told]
        exact (List.append_nil _).symm
      · have kept : server.lost = [] := by
          unfold lost
          rw [empty]
          split <;> rfl
        rw [kept, empty]
        rfl

theorem HubTurn.lost (turn : HubTurn visit now server after)
    (goesOn : after.hub.phase ≠ .finished) : server.lost = [] := by
  cases turn with
  | waits nothing kept => exact kept
  | start scheduled => exact (idle_of_phase (by rw [scheduled]; decide)).2
  | handle request rest running untold waiting => exact if_neg fun told => untold told.2
  | finish running ended => exact absurd rfl goesOn

theorem HubTurn.finished (turn : HubTurn visit now server after)
    (finished : server.hub.phase = .finished) : after.hub.phase = .finished := by
  cases turn with
  | waits => exact finished
  | start scheduled => cases finished.symm.trans scheduled
  | handle request rest running => exact finished
  | finish => rfl

theorem HubTurn.nextId (turn : HubTurn visit now server after) : after.nextId = server.nextId := by
  cases turn <;> rfl

/-- A turn of the hub adds to mailboxes and does nothing else to them. -/
theorem HubTurn.boxes (turn : HubTurn visit now server after) (id : ClientId) :
    (after.mail.box id).isOpen = (server.mail.box id).isOpen ∧
      (after.mail.box id).queue = (server.mail.box id).queue ++ server.delivered id after ∧
      ((server.mail.box id).isOpen = false → server.delivered id after = []) := by
  have still (same : after.mail.box id = server.mail.box id) :
      (after.mail.box id).isOpen = (server.mail.box id).isOpen ∧
      (after.mail.box id).queue = (server.mail.box id).queue ++ server.delivered id after ∧
      ((server.mail.box id).isOpen = false → server.delivered id after = []) := by
    rw [same, delivered_of_queue (by rw [same]), List.append_nil]
    exact ⟨rfl, rfl, fun _ => rfl⟩
  cases turn with
  | waits nothing kept => exact still rfl
  | start scheduled => exact still rfl
  | handle request rest running untold waiting =>
      have box : ((server.hub.state.handle visit now request).exchange.mail.box id) =
          (server.mail.box id).putAll (addressed id
            (Exchange.tries visit now server.hub.state.exchange request)) :=
        (Service.handle_box visit now server.hub.state request id).trans
          (Exchange.apply_box visit now server.hub.state.exchange request id)
      have queue := (congrArg Mailbox.queue box).trans (Mailbox.putAll_queue _ _)
      have put : server.delivered id { server with hub := { server.hub with
          state := server.hub.state.handle visit now request
          channel := { server.hub.channel with
            box := { server.hub.channel.box with queue := rest } } } } =
          (server.mail.box id).taken (addressed id
            (Exchange.tries visit now server.hub.state.exchange request)) := by
        rw [delivered]
        exact (congrArg _ queue).trans List.drop_left
      refine ⟨(congrArg Mailbox.isOpen box).trans (Mailbox.putAll_open _ _), ?_, fun shut => ?_⟩
      · rw [put]
        exact queue
      · rw [put, Mailbox.taken_closed _ _ shut]
  | finish running ended =>
      exact still (finish_box visit now server id)

end Server

namespace Venue

open Server

variable {venue : Venue} {id : ClientId}

def accepted (venue : Venue) (deed : Deed) : List Request :=
  Server.accepted venue.server (venue.perform deed).server

def applied (venue : Venue) : Deed → List Request
  | .act (.turn _ _ .hub) => venue.server.applied
  | _ => []

def lost (venue : Venue) : Deed → List Request
  | .act (.turn _ _ .hub) => venue.server.lost
  | _ => []

/-- A deed is a turn of the hub, or done away from it. -/
theorem hub_or_elsewhere (deed : Deed) :
    (∃ visit now, deed = .act (.turn visit now .hub)) ∨
      ∀ visit now, deed ≠ .act (.turn visit now .hub) := by
  by_cases hub : ∃ visit now, deed = .act (.turn visit now .hub)
  · exact Or.inl hub
  · exact Or.inr fun visit now same => hub ⟨visit, now, same⟩

theorem applied_elsewhere {deed : Deed}
    (elsewhere : ∀ visit now, deed ≠ .act (.turn visit now .hub)) :
    applied venue deed = [] ∧ lost venue deed = [] := by
  unfold applied lost
  split
  · rename_i visit now
    exact absurd rfl (elsewhere visit now)
  · exact ⟨rfl, rfl⟩

theorem perform_hub (visit : Visit) (now : Timestamp) (venue : Venue) :
    HubTurn visit now venue.server (venue.perform (.act (.turn visit now .hub))).server :=
  hubTurn_getD visit now venue.server

theorem perform_requests (deed : Deed) :
    venue.server.queued ++ accepted venue deed =
      applied venue deed ++ lost venue deed ++ (venue.perform deed).server.queued := by
  rcases hub_or_elsewhere deed with ⟨visit, now, rfl⟩ | elsewhere
  · obtain ⟨nothing, same⟩ := (perform_hub visit now venue).requests
    rw [accepted, nothing, List.append_nil]
    exact same
  · obtain ⟨nothing, kept⟩ : applied venue deed = [] ∧ lost venue deed = [] :=
      applied_elsewhere elsewhere
    have away : Elsewhere _ venue.server _ := perform_elsewhere elsewhere
    obtain ⟨requests, queued, -⟩ := away.queued
    rw [nothing, kept, accepted, Server.accepted, queued, List.drop_left]
    rfl

/-- The requests accepted so far, and what became of them. -/
structure Booked (accepted applied lost : List Request) (server : Server) : Prop where
  whole : accepted = applied ++ lost ++ server.queued
  going : server.hub.phase ≠ .finished → lost = []

theorem idle_of_not_running (elsewhere : venue.server.hub.phase ≠ .running) (deed : Deed) :
    applied venue deed = [] ∧ lost venue deed = [] := by
  rcases hub_or_elsewhere deed with ⟨visit, now, rfl⟩ | away
  · exact idle_of_phase elsewhere
  · exact applied_elsewhere away

theorem perform_finished (finished : venue.server.hub.phase = .finished) (deed : Deed) :
    (venue.perform deed).server.hub.phase = .finished := by
  rcases hub_or_elsewhere deed with ⟨visit, now, rfl⟩ | elsewhere
  · exact (perform_hub visit now venue).finished finished
  · have away : Elsewhere _ venue.server _ := perform_elsewhere elsewhere
    exact away.phase.trans finished

theorem lost_of_going (deed : Deed)
    (goesOn : (venue.perform deed).server.hub.phase ≠ .finished) : lost venue deed = [] := by
  rcases hub_or_elsewhere deed with ⟨visit, now, rfl⟩ | elsewhere
  · exact (perform_hub visit now venue).lost goesOn
  · exact (applied_elsewhere elsewhere).2

theorem perform_booked {taken done gone : List Request}
    (booked : Booked taken done gone venue.server) (deed : Deed) :
    Booked (taken ++ accepted venue deed) (done ++ applied venue deed) (gone ++ lost venue deed)
      (venue.perform deed).server := by
  have requests : venue.server.queued ++ accepted venue deed = _ := perform_requests deed
  by_cases finished : venue.server.hub.phase = .finished
  · obtain ⟨nothing, kept⟩ := idle_of_not_running (by rw [finished]; decide) deed
    rw [nothing, kept] at requests ⊢
    refine ⟨?_, fun goesOn => absurd (perform_finished finished deed) goesOn⟩
    rw [booked.whole, List.append_assoc, requests]
    simp
  · obtain rfl := booked.going finished
    refine ⟨?_, lost_of_going deed⟩
    rw [booked.whole, List.append_assoc, requests]
    simp

theorem play_booked {taken done gone : List Request} (deeds : List Deed)
    (booked : Booked taken done gone venue.server) :
    Booked (taken ++ gather accepted venue deeds) (done ++ gather applied venue deeds)
      (gone ++ gather lost venue deeds) (venue.play deeds).server := by
  induction deeds generalizing venue taken done gone with
  | nil => simpa [gather] using booked
  | cons deed rest ih =>
      have later := ih (perform_booked booked deed)
      rw [List.append_assoc, List.append_assoc, List.append_assoc] at later
      exact later

/-! ## Events in a mailbox -/

/-- The events delivered to a client so far, and those it received, are those of its mailbox too; a
client that has yet to come has had none. -/
structure Stocked (id : ClientId) (delivered received : List Event) (server : Server) : Prop where
  kept : (server.mail.box id).isOpen = true →
    delivered = received ++ (server.mail.box id).queue
  unknown : server.nextId ≤ id.number → (server.mail.box id).isOpen = false ∧
    (server.mail.box id).queue = [] ∧ delivered = [] ∧ received = []

theorem received_of_empty (empty : (venue.server.mail.box id).queue = []) (deed : Deed) :
    received id venue deed = [] := by
  unfold received
  split
  · rw [empty]
    split <;> rfl
  · unfold taken
    split
    · unfold Server.taken
      split
      · rw [empty]
        split <;> rfl
      · rfl
    · rfl

theorem perform_stocked {told heard : List Event} (stocked : Stocked id told heard venue.server)
    (deed : Deed) : Stocked id (told ++ delivered id venue deed) (heard ++ received id venue deed)
      (venue.perform deed).server := by
  rcases hub_or_elsewhere deed with ⟨visit, now, rfl⟩ | elsewhere
  · have turn := perform_hub visit now venue
    obtain ⟨opened, queue, shut⟩ := turn.boxes id
    have nothing : received id venue (.act (.turn visit now .hub)) = [] := rfl
    rw [nothing, List.append_nil]
    refine ⟨fun still => ?_, fun fresh => ?_⟩
    · rw [opened] at still
      rw [stocked.kept still, List.append_assoc, queue]
      rfl
    · rw [turn.nextId] at fresh
      obtain ⟨closed, empty, untold, unheard⟩ := stocked.unknown fresh
      have none := shut closed
      refine ⟨opened.trans closed, by rw [queue, empty, none]; rfl, ?_, unheard⟩
      rw [untold]
      exact none
  · have away : Elsewhere _ venue.server _ := perform_elsewhere elsewhere
    have none : delivered id venue deed = [] := away.delivered id
    rw [none, List.append_nil]
    refine ⟨fun still => ?_, fun fresh => ?_⟩
    · rcases away.boxes id with shelved | ⟨rfl, -, empty, nothing⟩
      · obtain ⟨opened, queue⟩ := shelved.kept still
        rw [stocked.kept opened, queue, List.append_assoc]
      · obtain ⟨-, -, untold, unheard⟩ := stocked.unknown (Nat.le_refl _)
        rw [untold, unheard, nothing, empty]
        rfl
    · obtain ⟨closed, empty, untold, unheard⟩ := stocked.unknown (Nat.le_trans away.given fresh)
      have nothing := received_of_empty empty deed
      rcases away.boxes id with shelved | ⟨rfl, newer, -, -⟩
      · refine ⟨?_, ?_, untold, by rw [unheard, nothing]; rfl⟩
        · by_contra opened
          have before := (shelved.kept ((Bool.not_eq_false _).mp opened)).1
          cases before.symm.trans closed
        · have shorter := shelved.shrinks
          rw [empty] at shorter
          exact List.length_eq_zero_iff.mp (Nat.le_zero.mp shorter)
      · exact absurd newer (Nat.not_lt_of_le fresh)

theorem play_stocked {told heard : List Event} (deeds : List Deed)
    (stocked : Stocked id told heard venue.server) :
    Stocked id (told ++ gather (delivered id) venue deeds)
      (heard ++ gather (received id) venue deeds) (venue.play deeds).server := by
  induction deeds generalizing venue told heard with
  | nil => simpa [gather] using stocked
  | cons deed rest ih =>
      have later := ih (perform_stocked stocked deed)
      rw [List.append_assoc, List.append_assoc] at later
      exact later

end Venue
end ChatRooms
