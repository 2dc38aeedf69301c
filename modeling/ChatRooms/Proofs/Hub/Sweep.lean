import ChatRooms.Proofs.Hub.Effect
import Mathlib.Data.List.TakeWhile

/-! Who is swept away with the clients found closed. No mailbox opens or closes on the way, so the
rounds can be followed on the registry alone, and whatever the order of the visits they come to the
same members: those found closed, and everybody else in their rooms whose mailbox is closed. -/
namespace ChatRooms

def Mailroom.isShut (mail : Mailroom) (client : ClientId) : Bool :=
  !(mail.box client).isOpen

namespace Exchange

variable {visit : Visit} {now : Timestamp} {shut : ClientId → Bool} {hub : Hub} {member : Member}

def without (visit : Visit) (shut : ClientId → Bool) (hub : Hub) (member : Member)
    (rest : List ClientId) : Hub :=
  { hub.strike member.id with
    closed := ((audience visit (hub.strike member.id) member.room member.id).filter shut).reverse ++
      rest }

def sweep (visit : Visit) (shut : ClientId → Bool) : Nat → Hub → List Member
  | 0, _ => []
  | rounds + 1, hub =>
      match nextClosed? hub with
      | none => []
      | some (member, rest) =>
          member :: sweep visit shut rounds (without visit shut hub member rest)

theorem foundClosed_congr {mail other : Mailroom} (tried : List Delivery)
    (same : ∀ client, (mail.box client).isOpen = (other.box client).isOpen) :
    foundClosed mail tried = foundClosed other tried := by
  simp only [foundClosed, same]

theorem foundClosed_append (mail : Mailroom) (first second : List Delivery) :
    foundClosed mail (first ++ second) = foundClosed mail second ++ foundClosed mail first := by
  simp [foundClosed]

theorem depart_without (exchange : Exchange) (member : Member) (rest : List ClientId) :
    (depart visit now { exchange with hub := { exchange.hub with closed := rest } } member).hub =
      without visit exchange.mail.isShut exchange.hub member rest := by
  rw [depart_eq, deliverEach_hub]
  have found : foundClosed (exchange.mail.release member.handle)
      (farewell visit now exchange.hub member) =
        ((audience visit (exchange.hub.strike member.id) member.room member.id).filter
          exchange.mail.isShut).reverse := by
    have opened (client : ClientId) := congrArg Mailbox.isOpen
      (Mailroom.box_release exchange.mail member.handle client)
    rw [foundClosed_congr _ opened]
    simp only [foundClosed, farewell, List.map_map, Function.comp_def, List.map_id']
    rfl
  rw [without, ← found]
  rfl

theorem departed_eq_sweep (visit : Visit) (now : Timestamp) (rounds : Nat) (exchange : Exchange) :
    departed visit now rounds exchange =
      sweep visit exchange.mail.isShut rounds exchange.hub := by
  induction rounds generalizing exchange with
  | zero => rfl
  | succ rounds ih =>
      cases found : nextClosed? exchange.hub with
      | none => simp [departed, sweep, found]
      | some next =>
          obtain ⟨member, rest⟩ := next
          have still_shut : (depart visit now
              { exchange with hub := { exchange.hub with closed := rest } } member).mail.isShut =
                exchange.mail.isShut := by
            funext client
            simp only [Mailroom.isShut, depart_box, Mailbox.putAll_open]
          simp only [departed, sweep, found, ih, depart_without, still_shut]

theorem nextClosed?_none (nobody : nextClosed? hub = none) :
    ∀ client ∈ hub.closed, hub.isRegistered client = false := by
  unfold nextClosed? at nobody
  split at nobody
  · rename_i strangers
    simpa using List.dropWhile_eq_nil_iff.mp strangers
  · rename_i client rest suffix
    have registered : hub.isRegistered client = true := by
      have first := List.head_dropWhile_not (fun id => !hub.isRegistered id)
        (l := hub.closed) (by rw [suffix]; simp)
      simpa [suffix] using first
    rw [Option.map_eq_none_iff, Hub.member?_eq_none_iff, registered] at nobody
    contradiction

theorem length_strike (keyed : hub.Keyed) (found : hub.member? member.id = some member) :
    (hub.strike member.id).members.length + 1 = hub.members.length := by
  have present : member.id ∈ hub.members.map (·.id) :=
    List.mem_map_of_mem (Hub.mem_of_member? found)
  have struck : (hub.strike member.id).members.map (·.id) =
      (hub.members.map (·.id)).erase member.id := by
    rw [List.Nodup.erase_eq_filter keyed.distinct, Hub.strike, List.filter_map]
    congr 1
    apply List.filter_congr
    intro other _
    simp [bne, Function.comp_apply]
    rfl
  have lengths := congrArg List.length struck
  rw [List.length_map, List.length_erase_of_mem present, List.length_map] at lengths
  have some_member := List.length_pos_of_mem (Hub.mem_of_member? found)
  omega

/-- Whether a member is found closed, or shares its room with one that is and has a closed mailbox
itself. -/
def Doomed (shut : ClientId → Bool) (hub : Hub) (member : Member) : Prop :=
  member ∈ hub.members ∧ (member.id ∈ hub.closed ∨ (shut member.id = true ∧
    ∃ other ∈ hub.members, other.id ∈ hub.closed ∧ other.room = member.room))

theorem not_doomed_of_nobody (nobody : nextClosed? hub = none) : ¬Doomed shut hub member := by
  have unlisted : ∀ other ∈ hub.members, other.id ∉ hub.closed := by
    intro other present listed
    have registered := Hub.isRegistered_iff.mpr ⟨other, present, rfl⟩
    rw [nextClosed?_none nobody other.id listed] at registered
    contradiction
  rintro ⟨present, listed | ⟨_, other, other_present, listed, _⟩⟩
  · exact unlisted member present listed
  · exact unlisted other other_present listed

section Round

variable {first : Member} {rest : List ClientId}

theorem mem_without : member ∈ (without visit shut hub first rest).members ↔
    member ∈ hub.members ∧ member.id ≠ first.id := by
  simp [without, Hub.strike]

-- A member other than the one to go is on the list exactly if it is on the rest of it.
theorem listed_iff_rest (found : nextClosed? hub = some (first, rest))
    (present : member ∈ hub.members) (apart : member.id ≠ first.id) :
    member.id ∈ hub.closed ↔ member.id ∈ rest := by
  obtain ⟨_, strangers, closed, unknown⟩ := nextClosed?_split found
  have known : member.id ∉ strangers := by
    intro listed
    have registered := Hub.isRegistered_iff.mpr ⟨member, present, rfl⟩
    rw [unknown _ listed] at registered
    contradiction
  simp [closed, known, apart]

variable (keyed : hub.Keyed) (found : nextClosed? hub = some (first, rest))

include keyed found

-- The departure adds those of the room whose mailbox is closed.
theorem listed_without (present : member ∈ hub.members) (apart : member.id ≠ first.id) :
    member.id ∈ (without visit shut hub first rest).closed ↔
      (shut member.id = true ∧ member.room = first.room) ∨ member.id ∈ hub.closed := by
  have stays : (hub.strike first.id).member? member.id = some member := by
    rw [Hub.member?_strike, if_neg apart]
    exact Hub.member?_of_mem keyed present
  rw [listed_iff_rest found present apart]
  simp only [without, List.mem_append, List.mem_reverse, List.mem_filter,
    mem_audience_of_member? (Hub.strike_keyed _ keyed) stays]
  tauto

theorem doomed_of_without (doomed : Doomed shut (without visit shut hub first rest) member) :
    Doomed shut hub member := by
  obtain ⟨is_member, _, closed, _⟩ := nextClosed?_split found
  have first_present := Hub.mem_of_member? is_member
  have first_listed : first.id ∈ hub.closed := by simp [closed]
  obtain ⟨stays, reason⟩ := doomed
  obtain ⟨present, apart⟩ := mem_without.mp stays
  refine ⟨present, ?_⟩
  rcases reason with listed | ⟨is_shut, other, other_stays, listed, home⟩
  · rcases (listed_without keyed found present apart).mp listed with ⟨is_shut, home⟩ | before
    · exact Or.inr ⟨is_shut, first, first_present, first_listed, home.symm⟩
    · exact Or.inl before
  · obtain ⟨other_present, other_apart⟩ := mem_without.mp other_stays
    refine Or.inr ⟨is_shut, ?_⟩
    rcases (listed_without keyed found other_present other_apart).mp listed with
      ⟨_, together⟩ | before
    · exact ⟨first, first_present, first_listed, together.symm.trans home⟩
    · exact ⟨other, other_present, before, home⟩

theorem without_of_doomed (doomed : Doomed shut hub member) (apart : member.id ≠ first.id) :
    Doomed shut (without visit shut hub first rest) member := by
  have first_present := Hub.mem_of_member? (nextClosed?_split found).1
  obtain ⟨present, reason⟩ := doomed
  refine ⟨mem_without.mpr ⟨present, apart⟩, ?_⟩
  rw [listed_without keyed found present apart]
  rcases reason with listed | ⟨is_shut, other, other_present, listed, home⟩
  · exact Or.inl (Or.inr listed)
  by_cases gone : other.id = first.id
  · have same := keyed.eq_of_id other_present first_present gone
    exact Or.inl (Or.inl ⟨is_shut, by rw [← home, same]⟩)
  · exact Or.inr ⟨is_shut, other, mem_without.mpr ⟨other_present, gone⟩,
      (listed_without keyed found other_present gone).mpr (Or.inr listed), home⟩

theorem doomed_iff_without : Doomed shut hub member ↔
    member = first ∨ Doomed shut (without visit shut hub first rest) member := by
  obtain ⟨is_member, _, closed, _⟩ := nextClosed?_split found
  have first_present := Hub.mem_of_member? is_member
  constructor
  · intro doomed
    by_cases self : member.id = first.id
    · exact Or.inl (keyed.eq_of_id doomed.1 first_present self)
    · exact Or.inr (without_of_doomed keyed found doomed self)
  · rintro (rfl | doomed)
    · exact ⟨first_present, Or.inl (by simp [closed])⟩
    · exact doomed_of_without keyed found doomed

end Round

/-- Enough rounds strike off exactly the members that are doomed, in whatever order. -/
theorem mem_sweep (visit : Visit) (shut : ClientId → Bool) (rounds : Nat) (keyed : hub.Keyed)
    (enough : hub.members.length ≤ rounds) :
    member ∈ sweep visit shut rounds hub ↔ Doomed shut hub member := by
  induction rounds generalizing hub with
  | zero =>
      have nobody : hub.members = [] := List.eq_nil_of_length_eq_zero (Nat.le_zero.mp enough)
      simp [sweep, Doomed, nobody]
  | succ rounds ih =>
      cases found : nextClosed? hub with
      | none => simp [sweep, found, not_doomed_of_nobody found]
      | some next =>
          obtain ⟨first, rest⟩ := next
          have shorter := length_strike keyed (nextClosed?_split found).1
          have later := @ih (without visit shut hub first rest) (keyed.sublist List.filter_sublist)
            (by simp only [without]; omega)
          simp only [sweep, found, List.mem_cons, later]
          exact (doomed_iff_without keyed found).symm

theorem connect_closed (visit : Visit) (now : Timestamp) (exchange : Exchange)
    (sender : ClientId) (user room : String) :
    (carried visit now exchange ⟨sender, .connect user room⟩).hub.closed =
      foundClosed exchange.mail
        (commandTries visit now exchange.hub ⟨sender, .connect user room⟩) ++
          exchange.hub.closed := by
  cases registered : exchange.hub.isRegistered sender with
  | true => simp [carried, execute, connect, commandTries, entrant?, registered, foundClosed]
  | false =>
      simp only [carried, execute, connect, commandTries, entrant?, registered,
        Bool.false_eq_true, ↓reduceIte, deliverAll_eq, announce_eq]
      have present (replayed : List Delivery) (member : Member) (room : String) :
          audience visit ((exchange.deliverEach replayed).enroll member).hub room sender =
            audience visit (exchange.hub.enroll member) room sender :=
        audience_congr _ _ (by simp [enroll, Hub.enroll])
      -- The replay opens and closes no mailbox.
      have opened (replayed : List Delivery) (member : Member) (client : ClientId) :
          (((exchange.deliverEach replayed).enroll member).mail.box client).isOpen =
            (exchange.mail.box client).isOpen := by
        rw [box_enroll, deliverEach_open]
      rw [present, deliverEach_hub, foundClosed_congr _ (opened _ _), foundClosed_append]
      simp [enroll, Hub.enroll, deliverEach_hub]

/-- The clients found closed by a command, the last one first, come before those there were. -/
theorem carried_closed (visit : Visit) (now : Timestamp) (exchange : Exchange)
    (request : Request) : (carried visit now exchange request).hub.closed =
      foundClosed exchange.mail (commandTries visit now exchange.hub request) ++
        exchange.hub.closed := by
  obtain ⟨sender, command⟩ := request
  cases command with
  | connect user room => exact connect_closed visit now exchange sender user room
  | disconnect =>
      cases found : exchange.hub.member? sender with
      | none => simp [carried, execute, disconnect, commandTries, found, foundClosed]
      | some member =>
          simp only [carried, execute, disconnect, commandTries, found, depart_eq, deliverEach_hub]
          rw [foundClosed_congr _ fun client => congrArg Mailbox.isOpen (box_strike _ _ _)]
          rfl
  | post user content room =>
      cases found : exchange.hub.member? sender with
      | none => simp [carried, execute, post, commandTries, said?, found, foundClosed]
      | some member =>
          simp only [carried, execute, post, commandTries, said?, found, Option.map_some,
            announce_eq, deliverEach_hub]
          rfl
  | direct letter =>
      cases found : (visit.arrange exchange.hub.members).find? (·.name = letter.recipient) with
      | none => simp [carried, execute, direct, commandTries, found, foundClosed]
      | some member =>
          have single := deliverEach_hub exchange
            [(member.handle, .direct { letter with sentAt := now })]
          simpa [carried, execute, direct, commandTries, found, deliverEach] using
            congrArg Hub.closed single
  | listUsers room =>
      have single := deliverEach_hub exchange
        (commandTries visit now exchange.hub ⟨sender, .listUsers room⟩)
      simpa [carried, execute, listUsers, commandTries, deliverEach] using
        congrArg Hub.closed single

theorem carried_isShut (visit : Visit) (now : Timestamp) (exchange : Exchange)
    (request : Request) :
    (carried visit now exchange request).mail.isShut = exchange.mail.isShut := by
  funext client
  exact congrArg (!·) ((carried_carries visit now exchange request).open client)

theorem swept_eq_sweep (visit : Visit) (now : Timestamp) (exchange : Exchange)
    (request : Request) : swept visit now exchange request =
      sweep visit exchange.mail.isShut (roster exchange.hub request).length
        (carried visit now exchange request).hub := by
  rw [swept, departed_eq_sweep, carried_isShut,
    (carried_carries visit now exchange request).members]

/-- A request sweeps away the members whose mailbox is closed, if it has found one of their room
closed, and nobody else. -/
theorem mem_swept {exchange : Exchange} (visit : Visit) (now : Timestamp) (request : Request)
    (keyed : exchange.hub.Keyed) (clean : exchange.hub.closed = []) :
    member ∈ swept visit now exchange request ↔
      member ∈ roster exchange.hub request ∧ exchange.mail.isShut member.id = true ∧
        ∃ other ∈ roster exchange.hub request, other.room = member.room ∧
          exchange.mail.isShut other.id = true ∧
          addressed other.id (commandTries visit now exchange.hub request) ≠ [] := by
  have effect := carried_carries visit now exchange request
  have tried (client : ClientId) : client ∈ (carried visit now exchange request).hub.closed ↔
      exchange.mail.isShut client = true ∧
        addressed client (commandTries visit now exchange.hub request) ≠ [] := by
    rw [effect.closed, clean, Ne, List.eq_nil_iff_forall_not_mem]
    simp [Mailroom.isShut, mem_addressed]
  rw [swept_eq_sweep, mem_sweep _ _ _ (carried_keyed visit now request keyed)
    (by rw [effect.members]), Doomed, effect.members]
  simp only [tried]
  constructor
  · rintro ⟨present, ⟨is_shut, told⟩ | ⟨is_shut, other, other_present, ⟨other_shut, told⟩, home⟩⟩
    · exact ⟨present, is_shut, member, present, rfl, is_shut, told⟩
    · exact ⟨present, is_shut, other, other_present, home, other_shut, told⟩
  · rintro ⟨present, is_shut, other, other_present, home, other_shut, told⟩
    exact ⟨present, Or.inr ⟨is_shut, other, other_present, ⟨other_shut, told⟩, home⟩⟩

end Exchange
end ChatRooms
