import ChatRooms.Proofs.Hub.Delivery
import ChatRooms.Proofs.Hub.Registry
import Mathlib.Data.List.TakeWhile

/-! Removing the clients found closed. Whatever the order, the rounds come to striking off a list of
members one after the other, each followed by the deliveries of its departure, and nobody stays on
the list of the clients found closed. Only members whose mailbox is closed are struck off. -/
namespace ChatRooms.Exchange

@[simp] theorem box_enroll (exchange : Exchange) (member : Member) (client : ClientId) :
    (exchange.enroll member).mail.box client = exchange.mail.box client :=
  Mailroom.box_share _ _ _

@[simp] theorem box_strike (exchange : Exchange) (member : Member) (client : ClientId) :
    (exchange.strike member).mail.box client = exchange.mail.box client :=
  Mailroom.box_release _ _ _

def farewell (visit : Visit) (now : Timestamp) (hub : Hub) (member : Member) : List Delivery :=
  (audience visit (hub.strike member.id) member.room member.id).map
    (·, Event.left member.name member.room now)

theorem depart_eq (visit : Visit) (now : Timestamp) (exchange : Exchange) (member : Member) :
    depart visit now exchange member =
      (exchange.strike member).deliverEach (farewell visit now exchange.hub member) :=
  announce_eq _ _ _ _ _

/-- The deliveries of several departures, each from the registry that the ones before left. -/
def farewells (visit : Visit) (now : Timestamp) : Hub → List Member → List Delivery
  | _, [] => []
  | hub, member :: rest =>
      farewell visit now hub member ++ farewells visit now (hub.strike member.id) rest

def departed (visit : Visit) (now : Timestamp) : Nat → Exchange → List Member
  | 0, _ => []
  | rounds + 1, exchange =>
      match nextClosed? exchange.hub with
      | none => []
      | some (member, rest) =>
          member :: departed visit now rounds
            (depart visit now { exchange with hub := { exchange.hub with closed := rest } } member)

def remaining (members gone : List Member) : List Member :=
  members.filter fun member => member.id ∉ gone.map (·.id)

@[simp] theorem remaining_nil (members : List Member) : remaining members [] = members := by
  simp [remaining]

theorem remaining_cons (members : List Member) (first : Member) (rest : List Member) :
    remaining members (first :: rest) = remaining (members.filter (·.id ≠ first.id)) rest := by
  simp only [remaining, List.filter_filter]
  apply List.filter_congr
  intro member _
  simp [Bool.and_comm]

theorem mem_remaining {members gone : List Member} {member : Member} :
    member ∈ remaining members gone ↔ member ∈ members ∧ member.id ∉ gone.map (·.id) := by
  simp [remaining]

theorem farewell_congr {visit : Visit} {now : Timestamp} {hub other : Hub} (member : Member)
    (same : hub.members = other.members) :
    farewell visit now hub member = farewell visit now other member := by
  have struck : (hub.strike member.id).members = (other.strike member.id).members := by
    simp [Hub.strike, same]
  rw [farewell, farewell, audience_congr _ _ struck]

theorem farewells_congr {visit : Visit} {now : Timestamp} {hub other : Hub} (gone : List Member)
    (same : hub.members = other.members) :
    farewells visit now hub gone = farewells visit now other gone := by
  induction gone generalizing hub other with
  | nil => rfl
  | cons member rest ih =>
      have struck : (hub.strike member.id).members = (other.strike member.id).members := by
        simp [Hub.strike, same]
      rw [farewells, farewells, farewell_congr member same, ih struck]

theorem depart_hub (visit : Visit) (now : Timestamp) (exchange : Exchange) (member : Member) :
    ∃ closed, (depart visit now exchange member).hub =
      { exchange.hub.strike member.id with closed } := by
  rw [depart_eq, deliverEach_hub]
  exact ⟨_, rfl⟩

theorem depart_members (visit : Visit) (now : Timestamp) (exchange : Exchange) (member : Member) :
    (depart visit now exchange member).hub.members =
      (exchange.hub.strike member.id).members := by
  obtain ⟨_, left_behind⟩ := depart_hub visit now exchange member
  rw [left_behind]

theorem depart_box (visit : Visit) (now : Timestamp) (exchange : Exchange) (member : Member)
    (client : ClientId) : (depart visit now exchange member).mail.box client =
      (exchange.mail.box client).putAll
        (addressed client (farewell visit now exchange.hub member)) := by
  rw [depart_eq, deliverEach_box, box_strike]

-- Pruning leaves the registry without the departed, and all else of the hub as it was.
theorem pruneRounds_hub (visit : Visit) (now : Timestamp) (rounds : Nat) (exchange : Exchange) :
    (pruneRounds visit now rounds exchange).hub =
      { exchange.hub with
        members := remaining exchange.hub.members (departed visit now rounds exchange)
        closed := [] } := by
  induction rounds generalizing exchange with
  | zero => simp [pruneRounds, departed]
  | succ rounds ih =>
      cases found : nextClosed? exchange.hub with
      | none => simp [pruneRounds, departed, found]
      | some next =>
          obtain ⟨member, rest⟩ := next
          obtain ⟨closed, left_behind⟩ := depart_hub visit now
            { exchange with hub := { exchange.hub with closed := rest } } member
          simp only [pruneRounds, departed, found, ih, remaining_cons]
          rw [left_behind]
          rfl

theorem pruneRounds_box (visit : Visit) (now : Timestamp) (rounds : Nat) (exchange : Exchange)
    (client : ClientId) : (pruneRounds visit now rounds exchange).mail.box client =
      (exchange.mail.box client).putAll (addressed client
        (farewells visit now exchange.hub (departed visit now rounds exchange))) := by
  induction rounds generalizing exchange with
  | zero => rfl
  | succ rounds ih =>
      cases found : nextClosed? exchange.hub with
      | none => simp [pruneRounds, departed, found, farewells]
      | some next =>
          obtain ⟨member, rest⟩ := next
          have struck : (depart visit now
              { exchange with hub := { exchange.hub with closed := rest } } member).hub.members =
                (exchange.hub.strike member.id).members := depart_members _ _ _ _
          simp only [pruneRounds, departed, found, ih, depart_box, farewells, addressed_append,
            Mailbox.putAll_append]
          have same : farewell visit now { exchange.hub with closed := rest } member =
              farewell visit now exchange.hub member := farewell_congr member rfl
          rw [farewells_congr _ struck, same]

-- The clients found after the next one to go are gone already.
theorem nextClosed?_split {hub : Hub} {member : Member} {rest : List ClientId}
    (found : nextClosed? hub = some (member, rest)) :
    hub.member? member.id = some member ∧
      ∃ strangers, hub.closed = strangers ++ member.id :: rest ∧
        ∀ client ∈ strangers, hub.isRegistered client = false := by
  unfold nextClosed? at found
  split at found
  · contradiction
  · rename_i client later suffix
    obtain ⟨registered, is_member, same⟩ := Option.map_eq_some_iff.mp found
    cases same
    have self := Hub.id_of_member? is_member
    refine ⟨self ▸ is_member, hub.closed.takeWhile (fun id => !hub.isRegistered id), ?_, ?_⟩
    · rw [self, ← suffix, List.takeWhile_append_dropWhile]
    · intro stranger taken
      simpa using List.mem_takeWhile_imp taken

theorem nextClosed?_some {hub : Hub} {member : Member} {rest : List ClientId}
    (found : nextClosed? hub = some (member, rest)) :
    member ∈ hub.members ∧ member.id ∈ hub.closed ∧ ∀ client ∈ rest, client ∈ hub.closed := by
  obtain ⟨is_member, strangers, closed, _⟩ := nextClosed?_split found
  refine ⟨Hub.mem_of_member? is_member, by simp [closed], ?_⟩
  intro client later
  simp [closed, later]

/-- Only closed mailboxes are held to be closed. -/
def AllShut (exchange : Exchange) : Prop :=
  ∀ client ∈ exchange.hub.closed, (exchange.mail.box client).isOpen = false

theorem deliverEach_allShut {exchange : Exchange} (tried : List Delivery)
    (shut : exchange.AllShut) : (exchange.deliverEach tried).AllShut := by
  intro client listed
  rw [deliverEach_open]
  rcases mem_deliverEach_closed.mp listed with before | ⟨found, _⟩
  · exact shut client before
  · exact found

theorem depart_allShut {exchange : Exchange} (visit : Visit) (now : Timestamp) (member : Member)
    (shut : exchange.AllShut) : (depart visit now exchange member).AllShut := by
  rw [depart_eq]
  apply deliverEach_allShut
  intro client listed
  rw [box_strike]
  exact shut client listed

-- Only those registered depart, nobody twice.
theorem departed_subset (visit : Visit) (now : Timestamp) (rounds : Nat) (exchange : Exchange) :
    departed visit now rounds exchange ⊆ exchange.hub.members ∧
      ((departed visit now rounds exchange).map (·.id)).Nodup := by
  induction rounds generalizing exchange with
  | zero => exact ⟨List.nil_subset _, List.nodup_nil⟩
  | succ rounds ih =>
      simp only [departed]
      cases found : nextClosed? exchange.hub with
      | none => exact ⟨List.nil_subset _, List.nodup_nil⟩
      | some next =>
          obtain ⟨first, rest⟩ := next
          obtain ⟨registered, _⟩ := nextClosed?_some found
          obtain ⟨later, once⟩ := ih (depart visit now
            { exchange with hub := { exchange.hub with closed := rest } } first)
          -- The later rounds start from a registry without the first to go.
          rw [depart_members] at later
          refine ⟨?_, List.nodup_cons.mpr ⟨?_, once⟩⟩
          · rintro member (_ | ⟨_, listed⟩)
            · exact registered
            · exact List.mem_of_mem_filter (later listed)
          · intro again
            obtain ⟨member, listed, same⟩ := List.mem_map.mp again
            have apart := (List.mem_filter.mp (later listed)).2
            simp [same] at apart

theorem departed_shut {visit : Visit} {now : Timestamp} {rounds : Nat} {exchange : Exchange}
    {member : Member} (shut : exchange.AllShut)
    (gone : member ∈ departed visit now rounds exchange) :
    (exchange.mail.box member.id).isOpen = false := by
  induction rounds generalizing exchange with
  | zero => contradiction
  | succ rounds ih =>
      cases found : nextClosed? exchange.hub with
      | none => simp [departed, found] at gone
      | some next =>
          obtain ⟨first, rest⟩ := next
          obtain ⟨_, listed, fewer⟩ := nextClosed?_some found
          simp only [departed, found, List.mem_cons] at gone
          rcases gone with rfl | later
          · exact shut _ listed
          -- Fewer clients are held to be closed in the next round, and mailboxes do not reopen.
          · have still_shut : ({ exchange with hub := { exchange.hub with closed := rest } } :
                Exchange).AllShut := fun client present => shut client (fewer client present)
            have closed := ih (depart_allShut visit now first still_shut) later
            rwa [depart_box, Mailbox.putAll_open] at closed

theorem pruneRounds_of_none {visit : Visit} {now : Timestamp} {exchange : Exchange}
    (rounds : Nat) (clean : exchange.hub.closed = []) :
    pruneRounds visit now rounds exchange = exchange := by
  obtain ⟨⟨defaultRoom, members, history, closed⟩, mail⟩ := exchange
  cases clean
  cases rounds <;> rfl

theorem departed_of_none {visit : Visit} {now : Timestamp} {exchange : Exchange}
    (rounds : Nat) (clean : exchange.hub.closed = []) :
    departed visit now rounds exchange = [] := by
  cases rounds with
  | zero => rfl
  | succ rounds => simp [departed, nextClosed?, clean]

theorem addressed_farewell {visit : Visit} {now : Timestamp} {hub : Hub} {client : ClientId}
    {member : Member} (leaver : Member) (keyed : hub.Keyed)
    (found : hub.member? client = some member) :
    addressed client (farewell visit now hub leaver) =
      if client ≠ leaver.id ∧ member.room = leaver.room then
        [Event.left leaver.name leaver.room now] else [] := by
  rw [farewell, addressed_fanout _ _ _ (audience_nodup _ _ _ (Hub.strike_keyed _ keyed))]
  by_cases self : client = leaver.id
  · have struck : (hub.strike leaver.id).member? client = none := by
      simp [Hub.member?_strike, self]
    simp [self, not_mem_audience_of_stranger (Hub.strike_keyed _ keyed) (self ▸ struck)]
  · have stays : (hub.strike leaver.id).member? client = some member := by
      simp [Hub.member?_strike, self, found]
    simp only [mem_audience_of_member? (Hub.strike_keyed _ keyed) stays, ne_eq, self,
      not_false_eq_true, true_and]

theorem event_of_mem_farewells {visit : Visit} {now : Timestamp} {hub : Hub} {client : ClientId}
    {event : Event} {gone : List Member} (told : (client, event) ∈ farewells visit now hub gone) :
    ∃ leaver ∈ gone, event = Event.left leaver.name leaver.room now := by
  induction gone generalizing hub with
  | nil => simp [farewells] at told
  | cons leaver rest ih =>
      rcases List.mem_append.mp told with now_told | later
      · obtain ⟨_, _, same⟩ := List.mem_map.mp now_told
        cases same
        exact ⟨leaver, List.mem_cons_self, rfl⟩
      · obtain ⟨other, listed, said⟩ := ih later
        exact ⟨other, List.mem_cons_of_mem _ listed, said⟩

-- Whoever is told of a departure was registered in the room, and is not the one who left.
theorem of_mem_farewells {visit : Visit} {now : Timestamp} {hub : Hub} {client : ClientId}
    {event : Event} {gone : List Member} (keyed : hub.Keyed)
    (told : (client, event) ∈ farewells visit now hub gone) :
    ∃ leaver ∈ gone, event = Event.left leaver.name leaver.room now ∧ client ≠ leaver.id ∧
      ∃ member ∈ hub.members, member.id = client ∧ member.room = leaver.room := by
  induction gone generalizing hub with
  | nil => simp [farewells] at told
  | cons leaver rest ih =>
      rcases List.mem_append.mp told with now_told | later
      · obtain ⟨_, heard, same⟩ := List.mem_map.mp now_told
        cases same
        obtain ⟨apart, member, present, same, home⟩ :=
          (mem_audience (Hub.strike_keyed _ keyed)).mp heard
        exact ⟨leaver, by simp, rfl, apart, member, List.mem_of_mem_filter present, same, home⟩
      · obtain ⟨other, listed, said, apart, member, present, same, home⟩ :=
          ih (Hub.strike_keyed _ keyed) later
        exact ⟨other, by simp [listed], said, apart, member, List.mem_of_mem_filter present,
          same, home⟩

theorem addressed_farewells_of_stranger {visit : Visit} {now : Timestamp} {hub : Hub}
    {client : ClientId} (gone : List Member) (keyed : hub.Keyed)
    (stranger : hub.member? client = none) :
    addressed client (farewells visit now hub gone) = [] := by
  apply List.eq_nil_iff_forall_not_mem.mpr
  intro event told
  obtain ⟨_, _, _, _, member, present, same, _⟩ := of_mem_farewells keyed (mem_addressed.mp told)
  have registered := Hub.isRegistered_iff.mpr ⟨member, present, same⟩
  rw [Hub.member?_eq_none_iff.mp stranger] at registered
  contradiction

-- A client is told once of each departure from its room before its own, and of no other.
theorem addressed_farewells_until {visit : Visit} {now : Timestamp} {hub : Hub}
    {client : ClientId} {member : Member} (gone : List Member) (keyed : hub.Keyed)
    (found : hub.member? client = some member) :
    addressed client (farewells visit now hub gone) =
      ((gone.takeWhile (·.id ≠ client)).filter (·.room = member.room)).map
        fun leaver => Event.left leaver.name leaver.room now := by
  induction gone generalizing hub with
  | nil => rfl
  | cons leaver rest ih =>
      rw [farewells, addressed_append, addressed_farewell leaver keyed found]
      by_cases self : leaver.id = client
      · have struck : (hub.strike leaver.id).member? client = none := by
          simp [Hub.member?_strike, self]
        rw [addressed_farewells_of_stranger rest (Hub.strike_keyed _ keyed) struck]
        simp [self]
      · have still_found : (hub.strike leaver.id).member? client = some member := by
          simp [Hub.member?_strike, Ne.symm self, found]
        rw [ih (Hub.strike_keyed _ keyed) still_found]
        by_cases home : leaver.room = member.room
        · simp [self, Ne.symm self, home]
        · simp [self, home, Ne.symm home]

theorem addressed_farewells {visit : Visit} {now : Timestamp} {hub : Hub} {client : ClientId}
    {member : Member} (gone : List Member) (keyed : hub.Keyed)
    (found : hub.member? client = some member) (stays : client ∉ gone.map (·.id)) :
    addressed client (farewells visit now hub gone) =
      (gone.filter (·.room = member.room)).map
        fun leaver => Event.left leaver.name leaver.room now := by
  have others : ∀ leaver ∈ gone, leaver.id ≠ client := fun leaver listed same =>
    stays (List.mem_map.mpr ⟨leaver, listed, same⟩)
  rw [addressed_farewells_until gone keyed found,
    List.takeWhile_eq_self_iff.mpr (by simpa using others)]

end ChatRooms.Exchange
