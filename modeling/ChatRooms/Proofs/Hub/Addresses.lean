import ChatRooms.Hub.Service
import ChatRooms.Proofs.Hub.Removal

/-! The addresses of the mailboxes. The hub keeps one for every client it has registered, and each
request brings one along, so that an owner learns that nothing more can arrive when all are gone and
no sooner. -/
namespace ChatRooms

namespace Mailroom

def addresses (mail : Mailroom) (id : ClientId) : Nat :=
  (mail.channel id).addresses

@[simp] theorem addresses_setBox (mail : Mailroom) (id other : ClientId) (box : Mailbox Event) :
    (mail.setBox id box).addresses other = mail.addresses other := by
  by_cases same : other = id
  · subst same
    simp [addresses, setBox]
  · simp [addresses, setBox, channel_setChannel_ne mail _ same]

@[simp] theorem addresses_close (mail : Mailroom) (id other : ClientId) :
    (mail.close id).addresses other = mail.addresses other :=
  addresses_setBox mail id other _

theorem addresses_share (mail : Mailroom) (id other : ClientId) :
    (mail.share id).addresses other = mail.addresses other + if other = id then 1 else 0 := by
  by_cases same : other = id
  · subst same
    simp [addresses, share, Channel.addAddress]
  · simp [addresses, share, channel_setChannel_ne mail _ same, same]

theorem addresses_release (mail : Mailroom) (id other : ClientId) :
    (mail.release id).addresses other = mail.addresses other - if other = id then 1 else 0 := by
  by_cases same : other = id
  · subst same
    simp [addresses, release, Channel.dropAddress]
  · simp [addresses, release, channel_setChannel_ne mail _ same, same]

@[simp] theorem addresses_receive (mail : Mailroom) (id other : ClientId) :
    (mail.receive id).2.addresses other = mail.addresses other := by
  have kept : (mail.channel id).receive.2.addresses = (mail.channel id).addresses := by
    unfold Channel.receive
    split <;> rfl
  by_cases same : other = id
  · subst same
    simp [addresses, receive, kept]
  · simp [addresses, receive, channel_setChannel_ne mail _ same]

end Mailroom

namespace Hub

theorem isRegistered_enroll (hub : Hub) (member : Member) (id : ClientId) :
    (hub.enroll member).isRegistered id = (hub.isRegistered id || decide (member.id = id)) := by
  simp [isRegistered, enroll]

theorem isRegistered_strike (hub : Hub) (gone id : ClientId) :
    (hub.strike gone).isRegistered id = (hub.isRegistered id && decide (id ≠ gone)) := by
  rw [Bool.eq_iff_iff]
  simp only [isRegistered, strike, List.any_filter, List.any_eq_true, Bool.and_eq_true,
    decide_eq_true_eq]
  constructor
  · rintro ⟨member, present, apart, rfl⟩
    exact ⟨⟨member, present, rfl⟩, apart⟩
  · rintro ⟨⟨member, present, rfl⟩, apart⟩
    exact ⟨member, present, apart, rfl⟩

end Hub

namespace Exchange

/-- Every client has the address of its registration, and as many others as given. -/
structure Accounted (others : ClientId → Nat) (exchange : Exchange) : Prop where
  keyed : exchange.hub.Keyed
  count : ∀ id, exchange.mail.addresses id =
    others id + if exchange.hub.isRegistered id then 1 else 0

variable {others : ClientId → Nat} {exchange : Exchange}

theorem Accounted.closed (closed : List ClientId) (accounted : exchange.Accounted others) :
    Accounted others { exchange with hub := { exchange.hub with closed } } :=
  ⟨⟨accounted.keyed.distinct, accounted.keyed.own⟩, accounted.count⟩

theorem Accounted.deliver (client : ClientId) (event : Event)
    (accounted : exchange.Accounted others) : (exchange.deliver client event).Accounted others := by
  unfold Exchange.deliver
  split
  · exact ⟨accounted.keyed, fun id => (Mailroom.addresses_setBox ..).trans (accounted.count id)⟩
  · exact accounted
  · exact accounted.closed _

theorem Accounted.deliverEach (tried : List Delivery) (accounted : exchange.Accounted others) :
    (exchange.deliverEach tried).Accounted others := by
  induction tried generalizing exchange with
  | nil => exact accounted
  | cons delivery rest ih => exact ih (accounted.deliver delivery.1 delivery.2)

theorem Accounted.announce (visit : Visit) (room : String) (absent : ClientId) (event : Event)
    (accounted : exchange.Accounted others) :
    (announce visit exchange room absent event).Accounted others := by
  rw [announce_eq]
  exact accounted.deliverEach _

theorem Accounted.enroll {member : Member} (stranger : exchange.hub.isRegistered member.id = false)
    (own : member.handle = member.id) (accounted : exchange.Accounted others) :
    (exchange.enroll member).Accounted others where
  keyed := Hub.enroll_keyed accounted.keyed stranger own
  count id := by
    simp only [Exchange.enroll, Mailroom.addresses_share, Hub.isRegistered_enroll,
      accounted.count id, own]
    by_cases same : id = member.id
    · simp [same, stranger]
    · simp [same, Ne.symm same]

theorem Accounted.strike {member : Member} (present : member ∈ exchange.hub.members)
    (accounted : exchange.Accounted others) : (exchange.strike member).Accounted others where
  keyed := Hub.strike_keyed member.id accounted.keyed
  count id := by
    have registered := Hub.isRegistered_iff.mpr ⟨member, present, rfl⟩
    simp only [Exchange.strike, Mailroom.addresses_release, Hub.isRegistered_strike,
      accounted.count id, accounted.keyed.own member present]
    by_cases same : id = member.id
    · simp [same, registered]
    · simp [same]

theorem Accounted.depart (visit : Visit) (now : Timestamp) {member : Member}
    (present : member ∈ exchange.hub.members) (accounted : exchange.Accounted others) :
    (depart visit now exchange member).Accounted others :=
  (accounted.strike present).announce _ _ _ _

theorem Accounted.pruneRounds (visit : Visit) (now : Timestamp) (rounds : Nat)
    (accounted : exchange.Accounted others) :
    (pruneRounds visit now rounds exchange).Accounted others := by
  induction rounds generalizing exchange with
  | zero => exact accounted.closed []
  | succ rounds ih =>
      rw [Exchange.pruneRounds]
      split
      · exact accounted.closed []
      · rename_i member rest found
        exact ih ((accounted.closed rest).depart visit now (nextClosed?_some found).1)

theorem Accounted.execute {visit : Visit} {now : Timestamp} {request : Request}
    {carried : Exchange} (accounted : exchange.Accounted others)
    (done : exchange.execute visit now request = .ok carried) : carried.Accounted others := by
  obtain ⟨sender, command⟩ := request
  cases command with
  | connect user room =>
      simp only [Exchange.execute, connect] at done
      split at done
      · contradiction
      · rename_i stranger
        cases done
        rw [deliverAll_eq]
        refine ((accounted.deliverEach _).enroll ?_ rfl).announce _ _ _ _
        simpa [Hub.isRegistered] using stranger
  | disconnect =>
      simp only [Exchange.execute, disconnect] at done
      split at done
      · contradiction
      · rename_i member found
        cases done
        exact accounted.depart visit now (Hub.mem_of_member? found)
  | post user content room =>
      simp only [Exchange.execute, post] at done
      split at done
      · contradiction
      · rename_i member found
        cases done
        have recorded (said : Broadcast) : Accounted others
            { exchange with hub := exchange.hub.record said } :=
          ⟨⟨accounted.keyed.distinct, accounted.keyed.own⟩, accounted.count⟩
        exact (recorded _).announce _ _ _ _
  | direct letter =>
      simp only [Exchange.execute, direct] at done
      split at done
      · contradiction
      · cases done
        exact accounted.deliver _ _
  | listUsers room =>
      cases done
      exact accounted.deliver _ _

/-- A request takes an address for whoever it registers and gives back that of whoever it
removes. -/
theorem Accounted.apply (visit : Visit) (now : Timestamp) (request : Request)
    (accounted : exchange.Accounted others) :
    (exchange.apply visit now request).1.Accounted others := by
  unfold Exchange.apply
  split
  · rename_i carried done
    exact (accounted.execute done).pruneRounds visit now _
  · exact accounted.pruneRounds visit now _

-- Nobody is registered twice, so every address given back is one that was kept.
theorem addresses_releaseEach (members : List Member) (once : (members.map (·.id)).Nodup)
    (own : ∀ member ∈ members, member.handle = member.id) (mail : Mailroom) (id : ClientId) :
    (members.foldl (fun mail member => mail.release member.handle) mail).addresses id =
      mail.addresses id - if members.any (·.id = id) then 1 else 0 := by
  induction members generalizing mail with
  | nil => simp
  | cons member rest ih =>
      obtain ⟨absent, rest_once⟩ := List.nodup_cons.mp once
      have rest_own := fun other listed => own other (List.mem_cons_of_mem _ listed)
      rw [List.foldl_cons, ih rest_once rest_own, Mailroom.addresses_release,
        own member List.mem_cons_self]
      by_cases same : id = member.id
      · subst same
        have no_more : rest.any (·.id = member.id) = false := by
          simpa using absent
        simp [no_more]
      · simp [same, Ne.symm same]

theorem Accounted.reset (accounted : exchange.Accounted others) :
    exchange.reset.Accounted others where
  keyed := Hub.keyed_of_nobody rfl
  count id := by
    rw [Exchange.reset, addresses_releaseEach _ accounted.keyed.distinct accounted.keyed.own,
      accounted.count id]
    simp [Hub.isRegistered, Hub.reset]

end Exchange
end ChatRooms
