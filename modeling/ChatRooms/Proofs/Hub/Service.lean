import ChatRooms.Hub.Service
import ChatRooms.Proofs.Actor.Advance
import ChatRooms.Proofs.Hub.Run

/-! The task of the hub: what is left when a request was handled or lost, and what becomes of a hub
that is handed requests while clients do as they like with their mailboxes. -/
namespace ChatRooms

namespace Service

theorem handle_exchange (visit : Visit) (now : Timestamp) (service : Service)
    (request : Request) : (service.handle visit now request).exchange =
      { (service.exchange.apply visit now request).1 with
        mail := (service.exchange.apply visit now request).1.mail.release request.sender } := by
  unfold handle carryOut
  rcases service.exchange.apply visit now request with ⟨_, _ | _⟩ <;> rfl

theorem handle_hub (visit : Visit) (now : Timestamp) (service : Service) (request : Request) :
    (service.handle visit now request).exchange.hub =
      (service.exchange.apply visit now request).1.hub := by
  rw [handle_exchange]

-- A request that is refused is written down, and the task goes on.
theorem handle_refused (visit : Visit) (now : Timestamp) (service : Service) (request : Request) :
    (service.handle visit now request).refused =
      service.refused ++ (Exchange.refusal? service.exchange.hub request).toList := by
  have answer := Exchange.apply_answer visit now service.exchange request
  unfold handle carryOut
  cases applied : service.exchange.apply visit now request with
  | mk exchange result =>
      rw [applied] at answer
      cases refused : Exchange.refusal? service.exchange.hub request with
      | none =>
          rw [refused] at answer
          cases answer
          exact (List.append_nil _).symm
      | some reason =>
          rw [refused] at answer
          cases answer
          rfl

theorem discard_hub (visit : Visit) (now : Timestamp) (service : Service)
    (requests : List Request) :
    (requests.foldl (Service.actor visit now).discard service).exchange.hub =
      service.exchange.hub := by
  induction requests generalizing service with
  | nil => rfl
  | cons request rest ih => exact ih (service.release request.sender)

end Service

theorem Exchange.reached_run {config : Config} {exchange : Exchange} (more : List Exchange.Act)
    (arrived : ∃ acts, exchange = Exchange.reached config acts) :
    ∃ acts, exchange.run more = Exchange.reached config acts := by
  obtain ⟨acts, rfl⟩ := arrived
  exact ⟨acts ++ more, (Exchange.reached_append config acts more).symm⟩

inductive Occasion where
  | hand (request : Request)
  | turn (visit : Visit) (now : Timestamp)
  | aside (act : Exchange.Act)

namespace Loop

def meet (loop : Loop Service Request) : Occasion → Loop Service Request
  | .hand request =>
      match loop.offer request with
      | .ok accepted => { accepted with state := accepted.state.share request.sender }
      | .error _ => loop
  | .turn visit now => (loop.turn? (Service.actor visit now)).getD loop
  | .aside act =>
      { loop with state := { loop.state with exchange := loop.state.exchange.step act } }

def meetAll (loop : Loop Service Request) (occasions : List Occasion) : Loop Service Request :=
  occasions.foldl meet loop

/-- A hub in its loop that nobody told to stop and that somebody can still reach. Its exchange is
one that a fresh hub comes to. -/
structure Up (config : Config) (loop : Loop Service Request) : Prop where
  running : loop.phase = .running
  untold : loop.signal ≠ .raised
  addressed : loop.channel.addresses ≠ 0
  arrived : ∃ acts, loop.state.exchange = Exchange.reached config acts

variable {config : Config} {loop next : Loop Service Request}

-- There is no turn that ends a hub that is up, whatever it makes of the request.
theorem Up.turn {visit : Visit} {now : Timestamp} (up : loop.Up config)
    (turned : loop.turn? (Service.actor visit now) = some next) :
    next.Up config ∧ loop.state.refused <+: next.state.refused := by
  cases advances_of_turn? turned with
  | start scheduled =>
      rw [up.running] at scheduled
      contradiction
  | handle request rest _ _ queued =>
      refine ⟨⟨up.running, up.untold, up.addressed, ?_⟩, ?_⟩
      · have more :=
          Exchange.reached_run [.ask visit now request, .release request.sender] up.arrived
        rw [Exchange.run_cons, Exchange.run_cons, Exchange.run_nil] at more
        exact Service.handle_exchange visit now loop.state request ▸ more
      · exact Service.handle_refused visit now loop.state request ▸ List.prefix_append _ _
  | finish _ ended =>
      rcases ended with raised | ⟨alone, _⟩
      · exact absurd raised up.untold
      · exact absurd alone up.addressed

theorem Up.meet (up : loop.Up config) (occasion : Occasion) :
    (loop.meet occasion).Up config ∧
      loop.state.refused <+: (loop.meet occasion).state.refused := by
  cases occasion with
  | hand request =>
      rcases loop.offer_cases request with ⟨-, closed⟩ | ⟨-, -, room⟩ | ⟨-, -, full⟩
      · rw [Loop.meet, closed]
        exact ⟨up, List.prefix_rfl⟩
      · rw [Loop.meet, room]
        have more := Exchange.reached_run [.share request.sender] up.arrived
        exact ⟨⟨up.running, up.untold, up.addressed, more⟩, List.prefix_rfl⟩
      · rw [Loop.meet, full]
        exact ⟨up, List.prefix_rfl⟩
  | turn visit now =>
      rw [Loop.meet]
      cases turned : loop.turn? (Service.actor visit now) with
      | none => exact ⟨up, List.prefix_rfl⟩
      | some next => exact up.turn turned
  | aside act =>
      have more := Exchange.reached_run [act] up.arrived
      exact ⟨⟨up.running, up.untold, up.addressed, more⟩, List.prefix_rfl⟩

/-- A hub that is up stays so whatever it is asked, and forgets no refusal. -/
theorem Up.meetAll (up : loop.Up config) (occasions : List Occasion) :
    (loop.meetAll occasions).Up config ∧
      loop.state.refused <+: (loop.meetAll occasions).state.refused := by
  induction occasions generalizing loop with
  | nil => exact ⟨up, List.prefix_rfl⟩
  | cons occasion rest ih =>
      obtain ⟨next, written⟩ := up.meet occasion
      obtain ⟨last, all_written⟩ := ih next
      exact ⟨last, written.trans all_written⟩

end Loop
end ChatRooms
