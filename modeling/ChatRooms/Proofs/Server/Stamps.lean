import ChatRooms.Proofs.Server.ClientSide
import ChatRooms.Proofs.Server.Ledger
import ChatRooms.Proofs.Wire.RoundTrip

/-! Where the stamps of events come from. The hub stamps all that it delivers, letters included, by
its own clock, and what it has recorded it has stamped when it was said. So a clock that reads no
leap second within a minute leaves none in a mailbox. -/
namespace ChatRooms

theorem regular_of_stamped {event : Event} {now : Timestamp} (regular : now.IsRegular)
    (stamped : ∀ at_ ∈ event.stamp?, at_ = now) : event.IsRegular :=
  fun at_ found => stamped at_ found ▸ regular

namespace Exchange

variable {exchange : Exchange} {visit : Visit} {now : Timestamp} {request : Request}

/-- No stamp in the history or in a mailbox is in a leap second within a minute. -/
structure Regular (exchange : Exchange) : Prop where
  history : ∀ room, ∀ post ∈ exchange.hub.history.recent room, post.sentAt.IsRegular
  mail : ∀ id, ∀ event ∈ (exchange.mail.box id).queue, event.IsRegular

theorem said?_stamp {hub : Hub} {post : Broadcast} (said : said? now hub request = some post) :
    post.sentAt = now := by
  unfold said? at said
  split at said
  · obtain ⟨member, _, rfl⟩ := Option.map_eq_some_iff.mp said
    rfl
  · contradiction

-- A command delivers what it stamps itself, and with a connection what the history has.
theorem commandTries_regular (regular : now.IsRegular) (recorded : exchange.Regular)
    {tried : Delivery} (listed : tried ∈ commandTries visit now exchange.hub request) :
    tried.2.IsRegular := by
  unfold commandTries at listed
  split at listed
  · split at listed
    · contradiction
    · rename_i member _
      rcases List.mem_append.mp listed with replayed | told
      · obtain ⟨event, kept, rfl⟩ := List.mem_map.mp replayed
        obtain ⟨post, recent, rfl⟩ := List.mem_map.mp kept
        rintro at_ ⟨rfl⟩
        exact recorded.history member.room post recent
      · obtain ⟨_, _, rfl⟩ := List.mem_map.mp told
        exact regular_of_stamped regular fun _ stamped => (Option.some.inj stamped).symm
  · split at listed
    · contradiction
    · obtain ⟨_, _, rfl⟩ := List.mem_map.mp listed
      exact regular_of_stamped regular fun _ stamped => (Option.some.inj stamped).symm
  · split at listed
    · contradiction
    · rename_i said
      obtain ⟨_, _, rfl⟩ := List.mem_map.mp listed
      refine regular_of_stamped regular fun _ stamped => ?_
      rw [← Option.some.inj stamped, said?_stamp said]
  · split at listed
    · contradiction
    · obtain rfl := List.mem_singleton.mp listed
      exact regular_of_stamped regular fun _ stamped => (Option.some.inj stamped).symm
  · rw [List.mem_singleton.mp listed]
    intro at_ stamped
    cases stamped

theorem tries_regular (regular : now.IsRegular) (recorded : exchange.Regular) {tried : Delivery}
    (listed : tried ∈ tries visit now exchange request) : tried.2.IsRegular := by
  rcases List.mem_append.mp listed with command | farewell
  · exact commandTries_regular regular recorded command
  · obtain ⟨_, _, told⟩ := event_of_mem_farewells farewell
    rw [told]
    exact regular_of_stamped regular fun _ stamped => (Option.some.inj stamped).symm

theorem Regular.apply (recorded : exchange.Regular) (regular : now.IsRegular) (visit : Visit)
    (request : Request) :
    (exchange.apply visit now request).1.Regular := by
  refine ⟨fun room post kept => ?_, fun id event queued => ?_⟩
  · rw [apply_history] at kept
    cases said : said? now exchange.hub request with
    | none =>
        rw [said] at kept
        exact recorded.history room post kept
    | some new =>
        rw [said] at kept
        rcases History.mem_recent_push kept with before | ⟨rfl, -⟩
        · exact recorded.history room post before
        · rw [said?_stamp said]
          exact regular
  · rw [apply_box, Mailbox.putAll_queue] at queued
    rcases List.mem_append.mp queued with before | new
    · exact recorded.mail id event before
    · have told := (Mailbox.taken_sublist _ _).subset new
      exact tries_regular regular recorded (mem_addressed.mp told)

end Exchange

namespace Server

variable {server after : Server} {visit : Visit} {now : Timestamp}

theorem HubTurn.regular (regular : now.IsRegular)
    (recorded : server.hub.state.exchange.Regular) (turn : HubTurn visit now server after) :
    after.hub.state.exchange.Regular := by
  cases turn with
  | waits | start => exact recorded
  | handle request rest =>
      have applied := recorded.apply regular visit request
      rw [Service.handle_exchange]
      refine ⟨applied.history, fun id event queued => ?_⟩
      rw [Mailroom.box_release] at queued
      exact applied.mail id event queued
  | finish =>
      refine ⟨fun room post kept => ?_, fun id event queued => ?_⟩
      · have hub : (server.hub.finish (Service.actor visit now)).state.exchange.hub =
            server.registry.reset := Service.discard_hub visit now _ server.queued
        simp only [hub] at kept
        exact absurd kept List.not_mem_nil
      · have box := finish_box visit now server id
        simp only [box] at queued
        exact recorded.mail id event queued

theorem Elsewhere.regular {received : ClientId → List Event}
    (recorded : server.hub.state.exchange.Regular) (away : Elsewhere received server after) :
    after.hub.state.exchange.Regular := by
  refine ⟨fun room post kept => ?_, fun id event queued => ?_⟩
  · have same : after.registry = server.registry := away.registry
    rw [Server.registry] at same
    rw [same] at kept
    exact recorded.history room post kept
  · rcases away.boxes id with shelved | ⟨-, -, empty, -⟩
    · exact recorded.mail id event (shelved.suffix.subset queued)
    · rw [show (after.hub.state.exchange.mail.box id).queue = [] from empty] at queued
      contradiction

end Server

namespace Venue

open Server

variable {venue : Venue}

def Deed.reading? : Deed → Option Timestamp
  | .act (.turn _ now .hub) => some now
  | _ => none

theorem perform_regular {deed : Deed} (clock : ∀ at_ ∈ deed.reading?, at_.IsRegular)
    (recorded : venue.server.hub.state.exchange.Regular) :
    (venue.perform deed).server.hub.state.exchange.Regular := by
  by_cases hub : ∃ visit now, deed = .act (.turn visit now .hub)
  · obtain ⟨visit, now, rfl⟩ := hub
    exact (hubTurn_getD visit now venue.server).regular (clock now rfl) recorded
  · exact (perform_elsewhere fun visit now same => hub ⟨visit, now, same⟩).regular recorded

theorem play_regular (deeds : List Deed)
    (clock : ∀ deed ∈ deeds, ∀ at_ ∈ deed.reading?, at_.IsRegular)
    (recorded : venue.server.hub.state.exchange.Regular) :
    (venue.play deeds).server.hub.state.exchange.Regular := by
  induction deeds generalizing venue with
  | nil => exact recorded
  | cons deed rest ih =>
      obtain ⟨first, others⟩ := List.forall_mem_cons.mp clock
      exact ih others (perform_regular first recorded)

theorem delivered_regular (id : ClientId) (deeds : List Deed)
    (clock : ∀ deed ∈ deeds, ∀ at_ ∈ deed.reading?, at_.IsRegular)
    (recorded : venue.server.hub.state.exchange.Regular) :
    ∀ event ∈ gather (delivered id) venue deeds, event.IsRegular := by
  induction deeds generalizing venue with
  | nil => exact fun _ told => absurd told List.not_mem_nil
  | cons deed rest ih =>
      obtain ⟨first, others⟩ := List.forall_mem_cons.mp clock
      have after := perform_regular first recorded
      intro event told
      rcases List.mem_append.mp told with now_told | later
      · exact after.mail id event (List.mem_of_mem_drop now_told)
      · exact ih others after event later

theorem start_regular {config : Config} {start : Venue} (started : start? config = some start) :
    start.server.hub.state.exchange.Regular := by
  obtain ⟨-, rfl⟩ := start?_some started
  exact ⟨fun _ _ kept => absurd kept List.not_mem_nil,
    fun _ _ queued => absurd queued List.not_mem_nil⟩

end Venue
end ChatRooms
