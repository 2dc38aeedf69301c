import ChatRooms.Proofs.Hub.Removal

/-! The effect of a request: the deliveries that it tries, the registry and the message that it
leaves. A mailbox is offered what is addressed to its client, first by the command and then by the
departures of the clients found closed, and nothing else ever touches it. -/
namespace ChatRooms.Exchange

def entrant? (hub : Hub) (request : Request) : Option Member :=
  match request.command with
  | .connect user room =>
      if hub.isRegistered request.sender then none
      else some ⟨request.sender, request.sender, user, hub.roomOrDefault room⟩
  | _ => none

/-- The message that a request adds to the history, under the registered name of its sender. -/
def said? (now : Timestamp) (hub : Hub) (request : Request) : Option Broadcast :=
  match request.command with
  | .post _ content room =>
      (hub.member? request.sender).map fun member =>
        ⟨member.name, content, if room.isEmpty then member.room else room, now⟩
  | _ => none

def refusal? (hub : Hub) (request : Request) : Option Refusal :=
  match request.command with
  | .connect _ _ =>
      if hub.isRegistered request.sender then some (.alreadyConnected request.sender) else none
  | .disconnect =>
      if hub.isRegistered request.sender then none else some (.strangerDisconnects request.sender)
  | .post _ _ _ =>
      if hub.isRegistered request.sender then none else some (.strangerPosts request.sender)
  | .direct letter =>
      if hub.members.any (·.name = letter.recipient) then none
      else some (.noSuchUser letter.recipient)
  | .listUsers _ => none

/-- The registry that a command leaves, before the clients found closed are removed. -/
def roster (hub : Hub) (request : Request) : List Member :=
  match request.command with
  | .disconnect => hub.members.filter (·.id ≠ request.sender)
  | _ => hub.members ++ (entrant? hub request).toList

def commandTries (visit : Visit) (now : Timestamp) (hub : Hub) (request : Request) :
    List Delivery :=
  match request.command with
  | .connect _ _ =>
      match entrant? hub request with
      | none => []
      | some member =>
          ((hub.history.recent member.room).map .broadcast).map (member.id, ·) ++
            (audience visit (hub.enroll member) member.room member.id).map
              (·, Event.joined member.name member.room now)
  | .disconnect =>
      match hub.member? request.sender with
      | none => []
      | some member => farewell visit now hub member
  | .post _ _ _ =>
      match said? now hub request with
      | none => []
      | some post => (audience visit hub post.room request.sender).map (·, .broadcast post)
  | .direct letter =>
      match (visit.arrange hub.members).find? (·.name = letter.recipient) with
      | none => []
      | some member => [(member.handle, .direct { letter with sentAt := now })]
  | .listUsers room =>
      [(request.sender, .users
        (((visit.arrange hub.members).filter (·.room = hub.roomOrDefault room)).map (·.name)))]

def carried (visit : Visit) (now : Timestamp) (exchange : Exchange) (request : Request) :
    Exchange :=
  match exchange.execute visit now request with
  | .ok done => done
  | .error _ => exchange

def swept (visit : Visit) (now : Timestamp) (exchange : Exchange) (request : Request) :
    List Member :=
  let after := carried visit now exchange request
  departed visit now after.hub.members.length after

def tries (visit : Visit) (now : Timestamp) (exchange : Exchange) (request : Request) :
    List Delivery :=
  commandTries visit now exchange.hub request ++
    farewells visit now (carried visit now exchange request).hub
      (swept visit now exchange request)

theorem apply_eq_prune (visit : Visit) (now : Timestamp) (exchange : Exchange)
    (request : Request) : (exchange.apply visit now request).1 =
      prune visit now (carried visit now exchange request) := by
  unfold apply carried
  cases exchange.execute visit now request <;> rfl

theorem stranger_filter {hub : Hub} {id : ClientId} (stranger : hub.member? id = none) :
    hub.members.filter (·.id ≠ id) = hub.members := by
  apply List.filter_eq_self.mpr
  intro member present
  have apart := List.find?_eq_none.mp stranger member present
  simpa using apart

/-- What a command does, in one: it leaves a registry, records a message or none, and delivers. -/
structure Carries (before after : Exchange) (members : List Member) (post : Option Broadcast)
    (tried : List Delivery) : Prop where
  defaultRoom : after.hub.defaultRoom = before.hub.defaultRoom
  members : after.hub.members = members
  history : after.hub.history = post.elim before.hub.history before.hub.history.push
  box : ∀ client, after.mail.box client =
    (before.mail.box client).putAll (addressed client tried)
  closed : ∀ client, client ∈ after.hub.closed ↔ client ∈ before.hub.closed ∨
    ((before.mail.box client).isOpen = false ∧ ∃ event, (client, event) ∈ tried)

theorem Carries.open {before after : Exchange} {members : List Member} {post : Option Broadcast}
    {tried : List Delivery} (effect : Carries before after members post tried)
    (client : ClientId) :
    (after.mail.box client).isOpen = (before.mail.box client).isOpen := by
  rw [effect.box, Mailbox.putAll_open]

theorem Carries.allShut {before after : Exchange} {members : List Member}
    {post : Option Broadcast} {tried : List Delivery}
    (effect : Carries before after members post tried) (shut : before.AllShut) :
    after.AllShut := by
  intro client listed
  rw [effect.open]
  rcases (effect.closed client).mp listed with earlier | ⟨found, _⟩
  · exact shut client earlier
  · exact found

theorem refused_carries (exchange : Exchange) :
    Carries exchange exchange exchange.hub.members none [] :=
  ⟨rfl, rfl, rfl, fun _ => rfl, by simp⟩

theorem deliverEach_carries (exchange : Exchange) (tried : List Delivery) :
    Carries exchange (exchange.deliverEach tried) exchange.hub.members none tried :=
  ⟨by simp, by simp, by simp, fun client => deliverEach_box _ client tried,
    fun _ => mem_deliverEach_closed⟩

theorem connect_carries (visit : Visit) (now : Timestamp) (exchange : Exchange)
    (sender : ClientId) (user room : String) :
    Carries exchange (carried visit now exchange ⟨sender, .connect user room⟩)
      (roster exchange.hub ⟨sender, .connect user room⟩) none
      (commandTries visit now exchange.hub ⟨sender, .connect user room⟩) := by
  cases registered : exchange.hub.isRegistered sender with
  | true =>
      simpa [carried, execute, connect, roster, commandTries, entrant?, registered] using
        refused_carries exchange
  | false =>
      simp only [carried, execute, connect, roster, commandTries, entrant?, registered,
        Bool.false_eq_true, ↓reduceIte, Option.toList_some, deliverAll_eq, announce_eq]
      -- The replay changes no member, so it has no part in who hears of the entrance.
      have present (replayed : List Delivery) (member : Member) (room : String) :
          audience visit ((exchange.deliverEach replayed).enroll member).hub room sender =
            audience visit (exchange.hub.enroll member) room sender :=
        audience_congr _ _ (by simp [enroll, Hub.enroll])
      rw [present]
      constructor
      · simp [enroll, Hub.enroll]
      · simp [enroll, Hub.enroll]
      · simp [enroll, Hub.enroll]
      · intro client
        rw [deliverEach_box, box_enroll, deliverEach_box, addressed_append,
          Mailbox.putAll_append]
      · intro client
        rw [mem_deliverEach_closed, box_enroll, deliverEach_open]
        simp only [enroll, Hub.enroll, mem_deliverEach_closed, List.mem_append, exists_or,
          and_or_left, or_assoc]

theorem disconnect_carries (visit : Visit) (now : Timestamp) (exchange : Exchange)
    (sender : ClientId) :
    Carries exchange (carried visit now exchange ⟨sender, .disconnect⟩)
      (roster exchange.hub ⟨sender, .disconnect⟩) none
      (commandTries visit now exchange.hub ⟨sender, .disconnect⟩) := by
  cases found : exchange.hub.member? sender with
  | none =>
      simp only [carried, execute, disconnect, roster, commandTries, found]
      rw [stranger_filter found]
      exact refused_carries exchange
  | some member =>
      have same := Hub.id_of_member? found
      simp only [carried, execute, disconnect, roster, commandTries, found, depart_eq]
      constructor
      · simp [strike, Hub.strike]
      · simp [strike, Hub.strike, same]
      · simp [strike, Hub.strike]
      · intro client
        rw [deliverEach_box, box_strike]
      · intro client
        rw [mem_deliverEach_closed, box_strike]
        rfl

theorem post_carries (visit : Visit) (now : Timestamp) (exchange : Exchange)
    (sender : ClientId) (user content room : String) :
    Carries exchange (carried visit now exchange ⟨sender, .post user content room⟩)
      (roster exchange.hub ⟨sender, .post user content room⟩)
      (said? now exchange.hub ⟨sender, .post user content room⟩)
      (commandTries visit now exchange.hub ⟨sender, .post user content room⟩) := by
  cases found : exchange.hub.member? sender with
  | none =>
      simpa [carried, execute, post, roster, commandTries, entrant?, said?, found] using
        refused_carries exchange
  | some member =>
      simp only [carried, execute, post, roster, commandTries, entrant?, said?, found,
        Option.map_some, announce_eq, Option.toList_none, List.append_nil]
      constructor
      · simp [Hub.record]
      · simp [Hub.record]
      · simp [Hub.record]
      · intro client
        rw [deliverEach_box]
        rfl
      · intro client
        rw [mem_deliverEach_closed]
        rfl

theorem direct_carries (visit : Visit) (now : Timestamp) (exchange : Exchange)
    (sender : ClientId) (letter : DirectMessage) :
    Carries exchange (carried visit now exchange ⟨sender, .direct letter⟩)
      (roster exchange.hub ⟨sender, .direct letter⟩) none
      (commandTries visit now exchange.hub ⟨sender, .direct letter⟩) := by
  cases found : (visit.arrange exchange.hub.members).find? (·.name = letter.recipient) with
  | none =>
      simpa [carried, execute, direct, roster, commandTries, entrant?, found] using
        refused_carries exchange
  | some member =>
      simpa [carried, execute, direct, roster, commandTries, entrant?, found, deliverEach] using
        deliverEach_carries exchange [(member.handle, .direct { letter with sentAt := now })]

theorem listUsers_carries (visit : Visit) (now : Timestamp) (exchange : Exchange)
    (sender : ClientId) (room : String) :
    Carries exchange (carried visit now exchange ⟨sender, .listUsers room⟩)
      (roster exchange.hub ⟨sender, .listUsers room⟩) none
      (commandTries visit now exchange.hub ⟨sender, .listUsers room⟩) := by
  simpa [carried, execute, listUsers, roster, commandTries, entrant?, deliverEach] using
    deliverEach_carries exchange
      (commandTries visit now exchange.hub ⟨sender, .listUsers room⟩)

theorem carried_carries (visit : Visit) (now : Timestamp) (exchange : Exchange)
    (request : Request) :
    Carries exchange (carried visit now exchange request) (roster exchange.hub request)
      (said? now exchange.hub request) (commandTries visit now exchange.hub request) := by
  obtain ⟨sender, command⟩ := request
  cases command with
  | connect user room => exact connect_carries visit now exchange sender user room
  | disconnect => exact disconnect_carries visit now exchange sender
  | post user content room => exact post_carries visit now exchange sender user content room
  | direct letter => exact direct_carries visit now exchange sender letter
  | listUsers room => exact listUsers_carries visit now exchange sender room

-- Nobody is swept away when every mailbox that the command tries is open.
theorem swept_of_open {visit : Visit} {now : Timestamp} {exchange : Exchange}
    {request : Request} (clean : exchange.hub.closed = [])
    (opened : ∀ delivery ∈ commandTries visit now exchange.hub request,
      (exchange.mail.box delivery.1).isOpen = true) :
    swept visit now exchange request = [] := by
  apply departed_of_none
  apply List.eq_nil_iff_forall_not_mem.mpr
  intro client listed
  have effect := carried_carries visit now exchange request
  rcases (effect.closed client).mp listed with earlier | ⟨shut, event, tried⟩
  · rw [clean] at earlier
    contradiction
  · rw [opened _ tried] at shut
    contradiction

/-- A request leaves the registry of its command without the members it swept away. -/
theorem apply_members (visit : Visit) (now : Timestamp) (exchange : Exchange)
    (request : Request) : (exchange.apply visit now request).1.hub.members =
      remaining (roster exchange.hub request) (swept visit now exchange request) := by
  rw [apply_eq_prune, prune, pruneRounds_hub, swept]
  simp only [(carried_carries visit now exchange request).members]

theorem apply_history (visit : Visit) (now : Timestamp) (exchange : Exchange)
    (request : Request) : (exchange.apply visit now request).1.hub.history =
      (said? now exchange.hub request).elim exchange.hub.history exchange.hub.history.push := by
  rw [apply_eq_prune, prune, pruneRounds_hub]
  exact (carried_carries visit now exchange request).history

theorem apply_defaultRoom (visit : Visit) (now : Timestamp) (exchange : Exchange)
    (request : Request) :
    (exchange.apply visit now request).1.hub.defaultRoom = exchange.hub.defaultRoom := by
  rw [apply_eq_prune, prune, pruneRounds_hub]
  exact (carried_carries visit now exchange request).defaultRoom

theorem apply_closed (visit : Visit) (now : Timestamp) (exchange : Exchange)
    (request : Request) : (exchange.apply visit now request).1.hub.closed = [] := by
  rw [apply_eq_prune, prune, pruneRounds_hub]

-- A request offers each mailbox the events that it tries at its client, and no others.
theorem apply_box (visit : Visit) (now : Timestamp) (exchange : Exchange) (request : Request)
    (client : ClientId) : (exchange.apply visit now request).1.mail.box client =
      (exchange.mail.box client).putAll
        (addressed client (tries visit now exchange request)) := by
  rw [apply_eq_prune, prune, pruneRounds_box, (carried_carries visit now exchange request).box,
    ← Mailbox.putAll_append, ← addressed_append]
  rfl

theorem entrant?_eq_some {hub : Hub} {request : Request} {member : Member}
    (entering : entrant? hub request = some member) :
    ∃ user room, request.command = .connect user room ∧
      hub.isRegistered request.sender = false ∧
      member = ⟨request.sender, request.sender, user, hub.roomOrDefault room⟩ := by
  unfold entrant? at entering
  split at entering
  · rename_i user room asked
    cases registered : hub.isRegistered request.sender with
    | true => simp [registered] at entering
    | false => exact ⟨user, room, asked, rfl, by simpa [registered] using entering.symm⟩
  · contradiction

theorem entrant_fresh {hub : Hub} {request : Request} {member : Member}
    (entering : entrant? hub request = some member) : hub.isRegistered member.id = false := by
  obtain ⟨_, _, _, stranger, same⟩ := entrant?_eq_some entering
  rw [same]
  exact stranger

theorem entrant_own {hub : Hub} {request : Request} {member : Member}
    (entering : entrant? hub request = some member) : member.handle = member.id := by
  obtain ⟨_, _, _, _, same⟩ := entrant?_eq_some entering
  rw [same]

theorem entrant_keyed {hub : Hub} {request : Request} {member : Member} (keyed : hub.Keyed)
    (entering : entrant? hub request = some member) : (hub.enroll member).Keyed :=
  Hub.enroll_keyed keyed (entrant_fresh entering) (entrant_own entering)

theorem roster_keyed (hub : Hub) (request : Request) (keyed : hub.Keyed) :
    Hub.Keyed { hub with members := roster hub request } := by
  unfold roster
  split
  · exact keyed.sublist List.filter_sublist
  · cases entering : entrant? hub request with
    | none => exact keyed.sublist (by simp)
    | some member => exact entrant_keyed keyed entering

theorem carried_keyed {exchange : Exchange} (visit : Visit) (now : Timestamp)
    (request : Request) (keyed : exchange.hub.Keyed) :
    (carried visit now exchange request).hub.Keyed := by
  refine (roster_keyed exchange.hub request keyed).sublist ?_
  rw [(carried_carries visit now exchange request).members]

theorem find?_remaining (members gone : List Member) (client : ClientId) :
    (remaining members gone).find? (·.id = client) =
      if client ∈ gone.map (·.id) then none else members.find? (·.id = client) := by
  simp only [remaining, List.find?_filter]
  split
  · rename_i left_it
    apply List.find?_eq_none.mpr
    intro member _ hit
    simp only [Bool.decide_and, Bool.and_eq_true, decide_eq_true_eq] at hit
    exact hit.1 (hit.2 ▸ left_it)
  · rename_i stays
    congr 1
    funext member
    by_cases hit : member.id = client
    · simpa [hit] using stays
    · simp [hit]

theorem find?_roster (hub : Hub) (request : Request) (client : ClientId) :
    (roster hub request).find? (·.id = client) =
      if request.command = .disconnect ∧ request.sender = client then none
      else (hub.member? client).or ((entrant? hub request).filter (·.id = client)) := by
  obtain ⟨sender, command⟩ := request
  cases command with
  | disconnect =>
      have struck := Hub.member?_strike hub client sender
      simp only [Hub.member?, Hub.strike] at struck
      rw [eq_comm] at struck
      by_cases same : client = sender
      · simp [roster, same]
      · simp only [same, ↓reduceIte] at struck
        simp [roster, entrant?, Hub.member?, Ne.symm same, struck]
  | connect user room =>
      simp only [roster, List.find?_append, reduceCtorEq, false_and, ↓reduceIte, Hub.member?]
      congr 1
      cases entrant? hub ⟨sender, .connect user room⟩ with
      | none => rfl
      | some member =>
          by_cases same : member.id = client <;>
            simp [Option.filter, same]
  | post | direct | listUsers => simp [roster, entrant?, Hub.member?]

/-- Who is registered after a request: whoever was or has just entered, unless the client has left
or was swept away. -/
theorem apply_member? (visit : Visit) (now : Timestamp) (exchange : Exchange)
    (request : Request) (client : ClientId) :
    (exchange.apply visit now request).1.hub.member? client =
      if client ∈ (swept visit now exchange request).map (·.id) then none
      else if request.command = .disconnect ∧ request.sender = client then none
      else (exchange.hub.member? client).or
        ((entrant? exchange.hub request).filter (·.id = client)) := by
  rw [Hub.member?, apply_members, find?_remaining, find?_roster]

/-- Whether a request is carried out, and if not why, is decided by the registry alone. -/
theorem apply_answer (visit : Visit) (now : Timestamp) (exchange : Exchange)
    (request : Request) : (exchange.apply visit now request).2 =
      (refusal? exchange.hub request).elim (.ok ()) .error := by
  obtain ⟨sender, command⟩ := request
  cases command with
  | connect user room =>
      cases registered : exchange.hub.isRegistered sender <;>
        simp [apply, execute, connect, refusal?, registered]
  | disconnect =>
      cases found : exchange.hub.member? sender <;>
        simp [apply, execute, disconnect, refusal?, found, Hub.isRegistered_eq_isSome]
  | post user content room =>
      cases found : exchange.hub.member? sender <;>
        simp [apply, execute, post, refusal?, found, Hub.isRegistered_eq_isSome]
  | direct letter =>
      have named : exchange.hub.members.any (·.name = letter.recipient) =
          ((visit.arrange exchange.hub.members).find? (·.name = letter.recipient)).isSome := by
        rw [List.isSome_find?, (visit.perm _).any_eq]
      cases found : (visit.arrange exchange.hub.members).find? (·.name = letter.recipient) <;>
        simp [apply, execute, direct, refusal?, named, found]
  | listUsers room => rfl

theorem answer_connect (visit : Visit) (now : Timestamp) (exchange : Exchange)
    (client : ClientId) (user room : String) :
    (exchange.apply visit now ⟨client, .connect user room⟩).2 = .ok () ↔
      exchange.hub.member? client = none := by
  rw [apply_answer, Hub.member?_eq_none_iff]
  cases registered : exchange.hub.isRegistered client <;> simp [refusal?, registered]

theorem answer_disconnect (visit : Visit) (now : Timestamp) (exchange : Exchange)
    (client : ClientId) : (exchange.apply visit now ⟨client, .disconnect⟩).2 = .ok () ↔
      exchange.hub.member? client ≠ none := by
  rw [apply_answer, Ne, Hub.member?_eq_none_iff]
  cases registered : exchange.hub.isRegistered client <;> simp [refusal?, registered]

end ChatRooms.Exchange
