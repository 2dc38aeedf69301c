import ChatRooms.Proofs.Hub.Effect
import ChatRooms.Proofs.Server.Effect

/-! What can be said of a registration before the queued requests of the client are carried out. On
the way the client may be swept away at any time, so that a connect takes effect that the hub would
have refused; after a disconnect nothing from before it counts. -/
namespace ChatRooms

/-- Whether a client is registered as fits, if at all, after a request, going by whether it was
before. -/
def foretell (fits : Member → Bool) (hub : Hub) (id : ClientId) (fit : Bool)
    (request : Request) : Bool :=
  if request.sender = id then
    match request.command with
    | .connect user room => fit && fits ⟨id, id, user, hub.roomOrDefault room⟩
    | .disconnect => true
    | _ => fit
  else fit

/-- However the queued requests turn out, the client is then registered as fits or not at all. -/
def Foretold (fits : Member → Bool) (hub : Hub) (queue : List Request) (id : ClientId) : Prop :=
  queue.foldl (foretell fits hub id) ((hub.member? id).all fits) = true

variable {fits others : Member → Bool} {hub : Hub} {queue : List Request} {id : ClientId}

theorem foretell_mono {fit other : Bool} {request : Request}
    (weaker : ∀ member, fits member = true → others member = true)
    (implied : fit = true → other = true)
    (holds : foretell fits hub id fit request = true) :
    foretell others hub id other request = true := by
  unfold foretell at holds ⊢
  split at holds
  · rename_i own
    rw [if_pos own]
    split at holds
    · simp only [Bool.and_eq_true] at holds ⊢
      exact ⟨implied holds.1, weaker _ holds.2⟩
    · rfl
    · exact implied holds
  · rename_i foreign
    rw [if_neg foreign]
    exact implied holds

theorem foldl_foretell_mono {fit other : Bool} (queue : List Request)
    (weaker : ∀ member, fits member = true → others member = true)
    (implied : fit = true → other = true)
    (holds : queue.foldl (foretell fits hub id) fit = true) :
    queue.foldl (foretell others hub id) other = true := by
  induction queue generalizing fit other with
  | nil => exact implied holds
  | cons request rest ih => exact ih (foretell_mono weaker implied) holds

theorem Foretold.weaken (weaker : ∀ member, fits member = true → others member = true)
    (foretold : Foretold fits hub queue id) : Foretold others hub queue id := by
  refine foldl_foretell_mono queue weaker ?_ foretold
  cases hub.member? id with
  | none => exact fun absent => absent
  | some member => exact weaker member

theorem foretell_congr {after : Hub} (same : after.defaultRoom = hub.defaultRoom) :
    foretell fits after id = foretell fits hub id := by
  funext fit request
  unfold foretell Hub.roomOrDefault
  rw [same]

-- What was foretold of a request comes true when it is carried out.
theorem apply_foretold {exchange : Exchange} (visit : Visit) (now : Timestamp)
    (request : Request)
    (holds : foretell fits exchange.hub id ((exchange.hub.member? id).all fits) request = true) :
    ((exchange.apply visit now request).1.hub.member? id).all fits = true := by
  rw [Exchange.apply_member?]
  split
  · rfl
  · split
    · rfl
    · rename_i stays
      cases found : exchange.hub.member? id with
      | some member =>
          -- A registered client stays what it is, a further connect notwithstanding.
          rw [found] at holds
          unfold foretell at holds
          split at holds
          · rename_i own
            split at holds
            · exact (Bool.and_eq_true_iff.mp holds).1
            · rename_i asked
              exact absurd ⟨asked, own⟩ stays
            · exact holds
          · exact holds
      | none =>
          cases entered : Exchange.entrant? exchange.hub request with
          | none => rfl
          | some member =>
              obtain ⟨user, room, asked, _, rfl⟩ := Exchange.entrant?_eq_some entered
              by_cases own : request.sender = id
              · simp only [foretell, own, ↓reduceIte, asked, found] at holds
                simpa [Option.filter, own] using holds
              · simp [Option.filter, own]

theorem Foretold.pop {exchange : Exchange} {request : Request} {rest : List Request}
    (visit : Visit) (now : Timestamp)
    (foretold : Foretold fits exchange.hub (request :: rest) id) :
    Foretold fits (exchange.apply visit now request).1.hub rest id := by
  unfold Foretold
  rw [foretell_congr (Exchange.apply_defaultRoom visit now exchange request)]
  exact foldl_foretell_mono rest (fun _ holds => holds)
    (fun holds => apply_foretold visit now request holds) foretold

theorem Foretold.push_other {sender : ClientId} (command : Command) (other : sender ≠ id)
    (foretold : Foretold fits hub queue id) :
    Foretold fits hub (queue ++ [⟨sender, command⟩]) id := by
  unfold Foretold at foretold ⊢
  rw [List.foldl_append]
  simpa [foretell, other] using foretold

-- Once it has asked to leave, a client is not registered until it asks to enter.
theorem foretold_of_disconnect : Foretold fits hub (queue ++ [⟨id, .disconnect⟩]) id := by
  unfold Foretold
  rw [List.foldl_append]
  simp [foretell]

theorem Foretold.push_own {command : Command}
    (fitting : ∀ user room, command = .connect user room →
      fits ⟨id, id, user, hub.roomOrDefault room⟩ = true)
    (foretold : Foretold fits hub queue id) :
    Foretold fits hub (queue ++ [⟨id, command⟩]) id := by
  unfold Foretold at foretold ⊢
  rw [List.foldl_append, foretold]
  cases command with
  | connect user room => simpa [foretell] using fitting user room rfl
  | disconnect | post | direct | listUsers => simp [foretell]

theorem foretold_of_reset (hub : Hub) : Foretold fits hub.reset [] id := rfl

-- Nothing is open any more when no request of the client is queued.
theorem Foretold.settled (foretold : Foretold fits hub queue id)
    (silent : ∀ request ∈ queue, request.sender ≠ id) :
    (hub.member? id).all fits = true := by
  unfold Foretold at foretold
  induction queue with
  | nil => exact foretold
  | cons request rest ih =>
      have foreign := silent request List.mem_cons_self
      rw [List.foldl_cons, foretell, if_neg foreign] at foretold
      exact ih foretold fun other queued => silent other (List.mem_cons_of_mem _ queued)

-- A turn of the hub takes back nothing that was foretold.
theorem Foretold.turn {visit : Visit} {now : Timestamp} {loop next : Loop Service Request}
    (turned : loop.turn? (Service.actor visit now) = some next)
    (foretold : Foretold fits loop.state.exchange.hub loop.channel.box.queue id) :
    Foretold fits next.state.exchange.hub next.channel.box.queue id := by
  rcases Loop.turn?_hub turned with ⟨hub, queue⟩ | ⟨request, rest, before, after, hub⟩ |
    ⟨hub, queue⟩
  · rwa [hub, queue]
  · rw [hub, after]
    rw [before] at foretold
    exact foretold.pop visit now
  · rw [hub, queue]
    exact foretold_of_reset _

end ChatRooms
