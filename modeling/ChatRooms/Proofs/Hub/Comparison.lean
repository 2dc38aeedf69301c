import ChatRooms.Proofs.Hub.Confinement
import ChatRooms.Proofs.Hub.KnownAddresses
import ChatRooms.Proofs.Hub.Sweep

/-! Two runs of a hub side by side, on the same requests. The order of the visits may be another one
in each, and so may what the clock says; only so much of it has to be the same as is looked at. -/
namespace ChatRooms

def Broadcast.restamp (seen : Timestamp → Timestamp) (post : Broadcast) : Broadcast :=
  { post with sentAt := seen post.sentAt }

def DirectMessage.restamp (seen : Timestamp → Timestamp) (letter : DirectMessage) :
    DirectMessage :=
  { letter with sentAt := seen letter.sentAt }

/-- An event with what is looked at of its timestamp. -/
def Event.restamp (seen : Timestamp → Timestamp) : Event → Event
  | .broadcast post => .broadcast (post.restamp seen)
  | .system notice at_ => .system notice (seen at_)
  | .users names => .users names
  | .direct letter => .direct (letter.restamp seen)

theorem Event.restamp_joined (seen : Timestamp → Timestamp) (name room : String)
    (now : Timestamp) : (Event.joined name room now).restamp seen =
      Event.joined name room (seen now) := rfl

theorem Event.restamp_left (seen : Timestamp → Timestamp) (name room : String)
    (now : Timestamp) : (Event.left name room now).restamp seen =
      Event.left name room (seen now) := rfl

theorem forall₂_of_map_eq {α β : Type} {look : α → β} {left right : List α}
    (same : left.map look = right.map look) :
    List.Forall₂ (fun one two => look one = look two) left right := by
  rwa [← List.forall₂_eq_eq_eq, List.forall₂_map_left_iff, List.forall₂_map_right_iff] at same

namespace History

def restamp (seen : Timestamp → Timestamp) (history : History) : History :=
  ⟨history.capacity, history.rooms.map fun (room, posts) => (room, posts.map (.restamp seen))⟩

theorem recent_restamp (seen : Timestamp → Timestamp) (history : History) (room : String) :
    (history.restamp seen).recent room = (history.recent room).map (.restamp seen) := by
  simp only [recent, restamp, List.find?_map, Function.comp_def]
  cases history.rooms.find? (·.1 = room) <;> rfl

theorem push_restamp (seen : Timestamp → Timestamp) (history : History) (post : Broadcast) :
    (history.push post).restamp seen = (history.restamp seen).push (post.restamp seen) := by
  have same_room : (post.restamp seen).room = post.room := rfl
  simp only [push, same_room, recent_restamp, trimmed]
  simp only [restamp, List.map_cons, List.map_drop, List.map_append, List.map_nil,
    List.length_append, List.length_map, List.length_cons, List.length_nil, List.filter_map,
    Function.comp_def]

theorem map_recent_push (seen : Timestamp → Timestamp) (history : History) (post : Broadcast)
    (room : String) : ((history.push post).recent room).map (Broadcast.restamp seen) =
      if room = post.room then
        trimmed history.capacity
          ((history.recent room).map (Broadcast.restamp seen) ++ [post.restamp seen])
      else (history.recent room).map (Broadcast.restamp seen) := by
  rw [recent_push]
  split
  · simp [trimmed, List.map_drop]
  · rfl

end History

namespace Exchange

/-- The same act in two runs: a request at clocks and with visits that are related, or anything
else. -/
inductive Act.Matches (seen : Timestamp → Timestamp) (order : Visit → Visit → Prop) :
    Act → Act → Prop where
  | ask (visit visit' : Visit) (now now' : Timestamp) (request : Request)
      (ordered : order visit visit') (clock : seen now = seen now') :
      Matches seen order (.ask visit now request) (.ask visit' now' request)
  | quiet (act : Act) (quiet : ∀ visit now request, act ≠ .ask visit now request) :
      Matches seen order act act

theorem box_arrive (exchange : Exchange) (newcomer id : ClientId) (capacity : Nat) :
    (exchange.arrive newcomer capacity).mail.box id =
      if id = newcomer ∧ exchange.mail.knows newcomer = false ∧ Mailbox.admits capacity = true then
        ⟨capacity, [], true⟩
      else exchange.mail.box id := by
  unfold arrive Mailroom.open? Channel.create? Mailbox.create?
  rw [← Mailroom.knows]
  cases known : exchange.mail.knows newcomer with
  | true => simp
  | false =>
      cases Mailbox.admits capacity with
      | false => simp
      | true =>
          by_cases same : id = newcomer
          · simp [same, Mailroom.box]
          · simp [same, Mailroom.box, Mailroom.channel_setChannel_ne]

theorem knows_arrive (exchange : Exchange) (newcomer id : ClientId) (capacity : Nat) :
    (exchange.arrive newcomer capacity).mail.knows id =
      (exchange.mail.knows id || (decide (id = newcomer) && Mailbox.admits capacity)) := by
  unfold arrive Mailroom.open? Channel.create? Mailbox.create?
  rw [← Mailroom.knows]
  cases known : exchange.mail.knows newcomer with
  | true =>
      by_cases same : id = newcomer
      · simp [same, known]
      · simp [same]
  | false =>
      cases Mailbox.admits capacity with
      | false => simp
      | true => simp [Mailroom.knows_setChannel, Bool.or_comm]

theorem knows_reset {exchange : Exchange} (acquainted : exchange.Acquainted) (id : ClientId) :
    exchange.reset.mail.knows id = exchange.mail.knows id := by
  have released (members : List Member) (mail : Mailroom)
      (known : ∀ member ∈ members, mail.knows member.handle = true) :
      (members.foldl (fun mail member => mail.release member.handle) mail).knows id =
        mail.knows id := by
    induction members generalizing mail with
    | nil => rfl
    | cons member rest ih =>
        have kept (other : ClientId) :
            (mail.release member.handle).knows other = mail.knows other :=
          Mailroom.knows_setChannel_known _ _ (known member List.mem_cons_self)
        rw [List.foldl_cons, ih, kept]
        intro other listed
        rw [kept]
        exact known other (List.mem_cons_of_mem _ listed)
  exact released _ _ acquainted

variable {like : Event → Event → Prop} {ours : ClientId → Prop} {left right : Exchange}

-- Whatever is not a request does the same to both mailrooms.
theorem quiet_matches (act : Act) (quiet : ∀ visit now request, act ≠ .ask visit now request)
    (left_acquainted : left.Acquainted) (right_acquainted : right.Acquainted)
    (mail : left.mail.Matches like ours right.mail) :
    (left.step act).mail.Matches like ours (right.step act).mail := by
  cases act with
  | ask visit now request => exact absurd rfl (quiet visit now request)
  | share client => exact mail.share client
  | release client => exact mail.release client
  | read client => exact mail.receive client
  | close client => exact mail.close client
  | arrive newcomer capacity =>
      refine ⟨fun id mine => ?_, fun id mine => ?_⟩
      · simp only [step, box_arrive]
        by_cases same : id = newcomer
        · subst same
          rw [← mail.known id mine]
          split
          · exact ⟨rfl, rfl, .nil⟩
          · exact mail.box id mine
        · simp only [same, false_and, ↓reduceIte]
          exact mail.box id mine
      · simp only [step, knows_arrive, mail.known id mine]
  | reset =>
      refine ⟨fun id mine => ?_, fun id mine => ?_⟩
      · simp only [step, box_reset]
        exact mail.box id mine
      · simp only [step, knows_reset left_acquainted, knows_reset right_acquainted,
          mail.known id mine]

/-- The hub when a command is done: the last client found closed is the first on the list. -/
theorem carried_hub (visit : Visit) (now : Timestamp) (exchange : Exchange) (request : Request) :
    (carried visit now exchange request).hub =
      { defaultRoom := exchange.hub.defaultRoom
        members := roster exchange.hub request
        history := (said? now exchange.hub request).elim exchange.hub.history
          exchange.hub.history.push
        closed := foundClosed exchange.mail (commandTries visit now exchange.hub request) ++
          exchange.hub.closed } := by
  have effect := carried_carries visit now exchange request
  have closed := carried_closed visit now exchange request
  rw [← effect.defaultRoom, ← effect.members, ← effect.history, ← closed]

theorem apply_hub (visit : Visit) (now : Timestamp) (exchange : Exchange) (request : Request) :
    (exchange.apply visit now request).1.hub =
      { defaultRoom := exchange.hub.defaultRoom
        members := remaining (roster exchange.hub request) (swept visit now exchange request)
        history := (said? now exchange.hub request).elim exchange.hub.history
          exchange.hub.history.push
        closed := [] } := by
  rw [← apply_defaultRoom visit now, ← apply_members, ← apply_history visit now,
    ← apply_closed visit now]

/-- A request says something in both of two runs or in neither, and the same but for what is not
looked at of the time. -/
theorem said?_restamp {seen : Timestamp → Timestamp} {one two : Hub} {now now' : Timestamp}
    (request : Request)
    (known : one.member? request.sender = two.member? request.sender)
    (clock : seen now = seen now') :
    (said? now one request = none ∧ said? now' two request = none) ∨
      ∃ post post', said? now one request = some post ∧ said? now' two request = some post' ∧
        post.restamp seen = post'.restamp seen ∧ post.room = post'.room := by
  unfold said?
  rw [known]
  split
  · cases two.member? request.sender with
    | none => exact Or.inl ⟨rfl, rfl⟩
    | some member => exact Or.inr ⟨_, _, rfl, rfl, by simp [Broadcast.restamp, clock], rfl⟩
  · exact Or.inl ⟨rfl, rfl⟩

def departures (visit : Visit) (now : Timestamp) (exchange : Exchange) (request : Request)
    (client : ClientId) : List Member :=
  ((roster exchange.hub request).find? (·.id = client)).elim [] fun member =>
    (swept visit now exchange request).filter (·.room = member.room)

theorem departures_subset (visit : Visit) (now : Timestamp) (exchange : Exchange)
    (request : Request) (client : ClientId) :
    departures visit now exchange request client ⊆ swept visit now exchange request := by
  unfold departures
  cases (roster exchange.hub request).find? (·.id = client) with
  | none => exact List.nil_subset _
  | some member => exact List.filter_sublist.subset

theorem addressed_departures {exchange : Exchange} {client : ClientId} (visit : Visit)
    (now : Timestamp) (request : Request) (sound : exchange.Sound)
    (opened : (exchange.mail.box client).isOpen = true) :
    addressed client (farewells visit now (carried visit now exchange request).hub
        (swept visit now exchange request)) =
      (departures visit now exchange request client).map fun leaver =>
        Event.left leaver.name leaver.room now := by
  have members := (carried_carries visit now exchange request).members
  have keyed := carried_keyed visit now request sound.keyed
  rw [departures, ← members]
  cases found : (carried visit now exchange request).hub.members.find? (·.id = client) with
  | some member => exact addressed_farewells _ keyed found (not_swept_of_open sound opened)
  | none => exact addressed_farewells_of_stranger _ keyed found

/-- What a request puts in a mailbox: what its command is about, and then, as far as there is room,
the departures of those found closed. -/
theorem arrivals_departures {exchange : Exchange} (client : ClientId) (visit : Visit)
    (now : Timestamp) (request : Request) (sound : exchange.Sound) :
    let offered := addressed client (commandTries visit now exchange.hub request)
    let box := exchange.mail.box client
    arrivals client exchange (.ask visit now request) = box.taken offered ++
      ((departures visit now exchange request client).take (box.putAll offered).free).map
        fun leaver => Event.left leaver.name leaver.room now := by
  intro offered box
  rw [arrivals_ask, tries, addressed_append, Mailbox.taken_append]
  congr 1
  rw [Mailbox.taken_eq_take]
  cases opened : box.isOpen with
  | true => rw [addressed_departures visit now request sound opened, List.map_take]
  | false =>
      rw [Mailbox.free_of_closed (by rw [Mailbox.putAll_open, opened])]
      rfl

/-- Two exchanges that differ at most in how many addresses lead to a mailbox. -/
structure Twins (left right : Exchange) : Prop where
  hub : left.hub = right.hub
  mail : left.mail.Matches (· = ·) (fun _ => True) right.mail
  left_acquainted : left.Acquainted
  right_acquainted : right.Acquainted

theorem Twins.box (twins : Twins left right) (client : ClientId) :
    left.mail.box client = right.mail.box client :=
  Mailbox.eq_of_matches (twins.mail.box client trivial)

theorem Twins.swept (twins : Twins left right) (visit : Visit) (now : Timestamp)
    (request : Request) : swept visit now left request = swept visit now right request := by
  have shut : left.mail.isShut = right.mail.isShut := by
    funext client
    rw [Mailroom.isShut, Mailroom.isShut, twins.box]
  have found (tried : List Delivery) : foundClosed left.mail tried = foundClosed right.mail tried :=
    foundClosed_congr tried fun client => by rw [twins.box]
  simp only [swept_eq_sweep, carried_hub, shut, found, twins.hub]

theorem Twins.tries (twins : Twins left right) (visit : Visit) (now : Timestamp)
    (request : Request) : tries visit now left request = tries visit now right request := by
  have same_members : (carried visit now left request).hub.members =
      (carried visit now right request).hub.members := by
    simp only [carried_hub, twins.hub]
  rw [Exchange.tries, Exchange.tries, twins.swept, twins.hub, farewells_congr _ same_members]

theorem Twins.apply (twins : Twins left right) (visit : Visit) (now : Timestamp)
    (request : Request) :
    Twins (left.apply visit now request).1 (right.apply visit now request).1 where
  hub := by rw [apply_hub, apply_hub, twins.swept, twins.hub]
  mail.box client _ := by
    rw [apply_box, apply_box, twins.tries, twins.box]
    exact Mailbox.matches_refl (fun _ => rfl) _
  mail.known client _ := by
    rw [apply_knows visit now request twins.left_acquainted,
      apply_knows visit now request twins.right_acquainted, twins.mail.known client trivial,
      twins.hub]
  left_acquainted := apply_acquainted visit now request twins.left_acquainted
  right_acquainted := apply_acquainted visit now request twins.right_acquainted

-- To the hub, an act that is not a request is a reset or nothing.
theorem quiet_hub (act : Act) (quiet : ∀ visit now request, act ≠ .ask visit now request) :
    (∀ exchange : Exchange, (exchange.step act).hub = exchange.hub) ∨
      ∀ exchange : Exchange, (exchange.step act).hub = exchange.hub.reset := by
  cases act with
  | ask visit now request => exact absurd rfl (quiet visit now request)
  | arrive newcomer capacity => exact Or.inl fun exchange => arrive_hub exchange newcomer capacity
  | reset => exact Or.inr fun _ => rfl
  | share | release | read | close => exact Or.inl fun _ => rfl

theorem Twins.step (twins : Twins left right) (act : Act) :
    Twins (left.step act) (right.step act) := by
  have quiet_twins (quiet : ∀ visit now request, act ≠ .ask visit now request) :
      Twins (left.step act) (right.step act) := by
    refine ⟨?_, quiet_matches act quiet twins.left_acquainted twins.right_acquainted twins.mail,
      step_acquainted act twins.left_acquainted, step_acquainted act twins.right_acquainted⟩
    rcases quiet_hub act quiet with kept | cleared
    · rw [kept, kept, twins.hub]
    · rw [cleared, cleared, twins.hub]
  cases act with
  | ask visit now request => exact twins.apply visit now request
  | arrive | share | release | read | close | reset => exact quiet_twins (by simp)

theorem Twins.run (twins : Twins left right) (acts : List Act) :
    Twins (left.run acts) (right.run acts) := by
  induction acts generalizing left right with
  | nil => exact twins
  | cons act rest ih => exact ih (twins.step act)

end Exchange
end ChatRooms
