import ChatRooms.Proofs.Hub.Run
import ChatRooms.Proofs.Mailbox.Matching

/-! Which identities the mailroom has an entry for. A request makes one for the client that it
registers, and no other; so everybody registered has one. -/
namespace ChatRooms.Exchange

def Acquainted (exchange : Exchange) : Prop :=
  ∀ member ∈ exchange.hub.members, exchange.mail.knows member.handle = true

variable {exchange : Exchange} {visit : Visit} {now : Timestamp}

-- An event is put only in a mailbox that is there.
theorem deliver_knows (exchange : Exchange) (client : ClientId) (event : Event) (id : ClientId) :
    (exchange.deliver client event).mail.knows id = exchange.mail.knows id := by
  unfold deliver Mailbox.offer
  cases opened : (exchange.mail.box client).isOpen with
  | false => rfl
  | true =>
      cases (exchange.mail.box client).hasRoom with
      | false => rfl
      | true => exact Mailroom.knows_setChannel_known _ _ (Mailroom.knows_of_open opened)

theorem deliverEach_knows (exchange : Exchange) (tried : List Delivery) (id : ClientId) :
    (exchange.deliverEach tried).mail.knows id = exchange.mail.knows id := by
  induction tried generalizing exchange with
  | nil => rfl
  | cons delivery rest ih => exact (ih _).trans (deliver_knows _ _ _ _)

theorem depart_knows (exchange : Exchange) {member : Member}
    (known : exchange.mail.knows member.handle = true) (id : ClientId) :
    (depart visit now exchange member).mail.knows id = exchange.mail.knows id := by
  rw [depart_eq, deliverEach_knows]
  exact Mailroom.knows_setChannel_known _ _ known

theorem pruneRounds_knows (rounds : Nat) (acquainted : exchange.Acquainted) (id : ClientId) :
    (pruneRounds visit now rounds exchange).mail.knows id = exchange.mail.knows id := by
  induction rounds generalizing exchange with
  | zero => rfl
  | succ rounds ih =>
      cases found : nextClosed? exchange.hub with
      | none => simp [pruneRounds, found]
      | some next =>
          obtain ⟨member, rest⟩ := next
          have known := acquainted member (nextClosed?_some found).1
          have kept (id : ClientId) : (depart visit now
              { exchange with hub := { exchange.hub with closed := rest } } member).mail.knows id =
                exchange.mail.knows id :=
            depart_knows { exchange with hub := { exchange.hub with closed := rest } } known id
          simp only [pruneRounds, found]
          rw [ih, kept]
          intro other stays
          rw [depart_members] at stays
          rw [kept]
          exact acquainted other (List.mem_of_mem_filter stays)

theorem carried_knows (visit : Visit) (now : Timestamp) (request : Request)
    (acquainted : exchange.Acquainted) (id : ClientId) :
    (carried visit now exchange request).mail.knows id =
      (exchange.mail.knows id || (entrant? exchange.hub request).any (·.id = id)) := by
  obtain ⟨sender, command⟩ := request
  cases command with
  | connect user room =>
      cases registered : exchange.hub.isRegistered sender with
      | true => simp [carried, execute, connect, entrant?, registered]
      | false =>
          simp only [carried, execute, connect, entrant?, registered, Bool.false_eq_true,
            ↓reduceIte, deliverAll_eq, announce_eq, deliverEach_knows, enroll, Mailroom.share,
            Mailroom.knows_setChannel, Option.any_some, eq_comm (a := id), Bool.or_comm]
  | disconnect =>
      cases found : exchange.hub.member? sender with
      | none => simp [carried, execute, disconnect, entrant?, found]
      | some member =>
          have known := acquainted member (Hub.mem_of_member? found)
          simp [carried, execute, disconnect, entrant?, found, depart_knows _ known]
  | post user content room =>
      cases found : exchange.hub.member? sender with
      | none => simp [carried, execute, post, entrant?, found]
      | some member =>
          simp [carried, execute, post, entrant?, found, announce_eq, deliverEach_knows]
  | direct letter =>
      cases found : (visit.arrange exchange.hub.members).find? (·.name = letter.recipient) with
      | none => simp [carried, execute, direct, entrant?, found]
      | some member => simp [carried, execute, direct, entrant?, found, deliver_knows]
  | listUsers room => simp [carried, execute, listUsers, entrant?, deliver_knows]

theorem carried_acquainted (visit : Visit) (now : Timestamp) (request : Request)
    (acquainted : exchange.Acquainted) : (carried visit now exchange request).Acquainted := by
  intro member present
  rw [carried_knows visit now request acquainted]
  rw [(carried_carries visit now exchange request).members] at present
  unfold roster at present
  split at present
  · rw [acquainted member (List.mem_of_mem_filter present), Bool.true_or]
  · rcases List.mem_append.mp present with registered | entered
    · rw [acquainted member registered, Bool.true_or]
    · have entered := Option.mem_toList.mp entered
      simp [entered, entrant_own entered]

/-- A request makes an entry for the client that it registers. -/
theorem apply_knows (visit : Visit) (now : Timestamp) (request : Request)
    (acquainted : exchange.Acquainted) (id : ClientId) :
    (exchange.apply visit now request).1.mail.knows id =
      (exchange.mail.knows id || (entrant? exchange.hub request).any (·.id = id)) := by
  rw [apply_eq_prune, prune,
    pruneRounds_knows _ (carried_acquainted visit now request acquainted),
    carried_knows visit now request acquainted]

theorem apply_acquainted (visit : Visit) (now : Timestamp) (request : Request)
    (acquainted : exchange.Acquainted) : (exchange.apply visit now request).1.Acquainted := by
  have after := carried_acquainted visit now request acquainted
  intro member present
  rw [apply_eq_prune, prune, pruneRounds_hub] at present
  rw [apply_eq_prune, prune, pruneRounds_knows _ after]
  exact after member (List.mem_of_mem_filter present)

theorem step_acquainted (act : Act) (acquainted : exchange.Acquainted) :
    (exchange.step act).Acquainted := by
  -- An entry stays when a channel is put in its place or beside it.
  have kept {id : ClientId} (known : exchange.mail.knows id = true) (other : ClientId)
      (channel : Channel Event) : (exchange.mail.setChannel other channel).knows id = true := by
    rw [Mailroom.knows_setChannel, known, Bool.or_true]
  cases act with
  | ask visit now request => exact apply_acquainted visit now request acquainted
  | arrive newcomer capacity =>
      intro member present
      rw [step, arrive_hub] at present
      have known := acquainted member present
      simp only [step, arrive]
      split
      · exact known
      · unfold Mailroom.open? Channel.create? Mailbox.create?
        split
        · exact kept known _ _
        · exact known
  | reset =>
      intro member present
      contradiction
  | share | release | read | close =>
      intro member present
      exact kept (acquainted member present) _ _

theorem reached_acquainted (config : Config) (acts : List Act) :
    (reached config acts).Acquainted := by
  have kept (exchange : Exchange) (acquainted : exchange.Acquainted) :
      (exchange.run acts).Acquainted := by
    induction acts generalizing exchange with
    | nil => exact acquainted
    | cons act rest ih => exact ih _ (step_acquainted act acquainted)
  exact kept _ fun member present => by contradiction

end ChatRooms.Exchange
