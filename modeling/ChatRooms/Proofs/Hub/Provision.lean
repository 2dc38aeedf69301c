import ChatRooms.Proofs.Hub.Comparison

/-! How much there is room for: every room keeps at most so many messages, and every mailbox that is
open is of the same size. What a client finds in its mailbox when it has connected is what it had
not read, and then the history of the room, from the oldest message on, as far as there is room. -/
namespace ChatRooms.Exchange

structure Provisioned (historySize capacity : Nat) (exchange : Exchange) : Prop where
  kept : exchange.hub.history.capacity = historySize
  bounded : ∀ room, (exchange.hub.history.recent room).length ≤ historySize
  sized : ∀ id, (exchange.mail.box id).isOpen = true →
    (exchange.mail.box id).capacity = capacity ∧ Mailbox.admits capacity = true

variable {historySize capacity : Nat} {exchange : Exchange}

-- A mailbox that is open after something was done to it was so before, or is new.
theorem Provisioned.of_boxes {after : Exchange}
    (provisioned : exchange.Provisioned historySize capacity)
    (history : after.hub.history = exchange.hub.history)
    (boxes : ∀ id, (after.mail.box id).isOpen = true →
      ((after.mail.box id).capacity = capacity ∧ Mailbox.admits capacity = true) ∨
        ((exchange.mail.box id).isOpen = true ∧
          (after.mail.box id).capacity = (exchange.mail.box id).capacity)) :
    after.Provisioned historySize capacity where
  kept := by rw [history, provisioned.kept]
  bounded := by
    rw [history]
    exact provisioned.bounded
  sized id opened := by
    rcases boxes id opened with sized | ⟨open_before, same⟩
    · exact sized
    · rw [same]
      exact provisioned.sized id open_before

theorem Provisioned.apply (provisioned : exchange.Provisioned historySize capacity)
    (visit : Visit) (now : Timestamp) (request : Request) :
    (exchange.apply visit now request).1.Provisioned historySize capacity where
  kept := (step_settings exchange (.ask visit now request)).2.trans provisioned.kept
  bounded room := by
    rw [apply_history]
    cases said? now exchange.hub request with
    | none => exact provisioned.bounded room
    | some post =>
        exact History.length_recent_push post room (Nat.le_of_eq provisioned.kept)
          (provisioned.bounded room)
  sized id opened := by
    rw [apply_box, Mailbox.putAll_open] at opened
    rw [apply_box, Mailbox.putAll_capacity]
    exact provisioned.sized id opened

theorem Provisioned.step (provisioned : exchange.Provisioned historySize capacity) (act : Act)
    (newcomers : ∀ client size, act = .arrive client size → size = capacity) :
    (exchange.step act).Provisioned historySize capacity := by
  cases act with
  | ask visit now request => exact provisioned.apply visit now request
  | arrive newcomer size =>
      cases newcomers newcomer size rfl
      refine provisioned.of_boxes (by rw [Exchange.step, arrive_hub]) fun id opened => ?_
      simp only [Exchange.step, box_arrive] at opened ⊢
      split at opened
      · rename_i fresh
        rw [if_pos fresh]
        exact Or.inl ⟨rfl, fresh.2.2⟩
      · rename_i stale
        rw [if_neg stale]
        exact Or.inr ⟨opened, rfl⟩
  | share client | release client =>
      refine provisioned.of_boxes rfl fun id opened => Or.inr ?_
      simp only [Exchange.step, Mailroom.box_share, Mailroom.box_release] at opened ⊢
      exact ⟨opened, trivial⟩
  | read client =>
      refine provisioned.of_boxes rfl fun id opened => Or.inr ?_
      simp only [Exchange.step, Mailroom.box_receive] at opened ⊢
      split at opened
      · rename_i self
        rw [if_pos self]
        exact ⟨opened, rfl⟩
      · rename_i other
        rw [if_neg other]
        exact ⟨opened, rfl⟩
  | close client =>
      refine provisioned.of_boxes rfl fun id opened => Or.inr ?_
      simp only [Exchange.step, Mailroom.box_close] at opened ⊢
      split at opened
      · contradiction
      · rename_i other
        rw [if_neg other]
        exact ⟨opened, rfl⟩
  | reset =>
      exact ⟨provisioned.kept, fun _ => Nat.zero_le _, fun id opened => by
        simp only [Exchange.step, box_reset] at opened ⊢
        exact provisioned.sized id opened⟩

/-- A client that connects is offered the history of its room, and nothing else by the command. -/
theorem addressed_entrant {visit : Visit} {now : Timestamp} {hub : Hub} {client : ClientId}
    {user room : String} (keyed : hub.Keyed)
    (stranger : hub.isRegistered client = false) :
    addressed client (commandTries visit now hub ⟨client, .connect user room⟩) =
      (hub.history.recent (hub.roomOrDefault room)).map .broadcast := by
  have enrolled : (hub.enroll ⟨client, client, user, hub.roomOrDefault room⟩).Keyed :=
    Hub.enroll_keyed keyed stranger rfl
  have unheard (audience_room : String) :
      client ∉ audience visit (hub.enroll ⟨client, client, user, hub.roomOrDefault room⟩)
        audience_room client := fun heard => ((mem_audience enrolled).mp heard).1 rfl
  simp only [commandTries, entrant?, stranger, Bool.false_eq_true, ↓reduceIte, addressed_append,
    addressed_to, addressed_fanout _ _ _ (audience_nodup visit _ _ enrolled), unheard,
    List.append_nil]

/-- Members of a room, other than a client that joins it, that a step removes because their mailbox
is closed; each of them once. -/
structure Reaped (before : Exchange) (after : Hub) (joiner : ClientId) (room : String)
    (leavers : List Member) : Prop where
  once : (leavers.map (·.id)).Nodup
  others : ∀ leaver ∈ leavers, leaver.id ≠ joiner
  present : ∀ leaver ∈ leavers, leaver ∈ before.hub.members ∧ leaver.room = room
  shut : ∀ leaver ∈ leavers, (before.mail.box leaver.id).isOpen = false
  gone : ∀ leaver ∈ leavers, after.isRegistered leaver.id = false

theorem Reaped.take {before : Exchange} {after : Hub} {joiner : ClientId} {room : String}
    {leavers : List Member} (reaped : Reaped before after joiner room leavers) (count : Nat) :
    Reaped before after joiner room (leavers.take count) where
  once := reaped.once.sublist ((List.take_sublist count leavers).map _)
  others leaver listed := reaped.others leaver (List.mem_of_mem_take listed)
  present leaver listed := reaped.present leaver (List.mem_of_mem_take listed)
  shut leaver listed := reaped.shut leaver (List.mem_of_mem_take listed)
  gone leaver listed := reaped.gone leaver (List.mem_of_mem_take listed)

-- A client that connects is told of the removals in the room that it joins.
theorem departures_of_entrant {client : ClientId} (user room : String) (visit : Visit)
    (now : Timestamp) (stranger : exchange.hub.isRegistered client = false) :
    departures visit now exchange ⟨client, .connect user room⟩ client =
      (swept visit now exchange ⟨client, .connect user room⟩).filter
        (·.room = exchange.hub.roomOrDefault room) := by
  have unknown := Hub.member?_eq_none_iff.mpr stranger
  rw [departures, find?_roster]
  simp [unknown, entrant?, stranger, Option.filter]

theorem departures_reaped {client : ClientId} (user room : String) (visit : Visit)
    (now : Timestamp) (sound : exchange.Sound)
    (stranger : exchange.hub.isRegistered client = false)
    (opened : (exchange.mail.box client).isOpen = true) :
    Reaped exchange (exchange.step (.ask visit now ⟨client, .connect user room⟩)).hub client
      (exchange.hub.roomOrDefault room)
      (departures visit now exchange ⟨client, .connect user room⟩ client) := by
  rw [departures_of_entrant user room visit now stranger]
  let joining : Request := ⟨client, .connect user room⟩
  have entering : entrant? exchange.hub joining =
      some ⟨client, client, user, exchange.hub.roomOrDefault room⟩ := by
    simp [joining, entrant?, stranger]
  have others (leaver : Member) (gone : leaver ∈ swept visit now exchange joining) :
      leaver.id ≠ client := by
    rintro rfl
    exact not_swept_of_open sound opened (List.mem_map_of_mem gone)
  have left (leaver : Member) (gone : leaver ∈ swept visit now exchange joining) :=
    (mem_gone visit now joining sound.keyed leaver).mp (List.mem_append_right _ gone)
  refine ⟨?_, ?_, ?_, ?_, ?_⟩
  · exact (swept_subset visit now exchange joining).2.sublist (List.filter_sublist.map _)
  · intro leaver listed
    exact others leaver (List.mem_filter.mp listed).1
  · intro leaver listed
    obtain ⟨gone, home⟩ := List.mem_filter.mp listed
    refine ⟨?_, of_decide_eq_true home⟩
    rcases List.mem_append.mp (left leaver gone).1 with registered | entered
    · exact registered
    · rw [entering, Option.toList_some, List.mem_singleton] at entered
      exact absurd (congrArg Member.id entered) (others leaver gone)
  · intro leaver listed
    have gone := (List.mem_filter.mp listed).1
    have shut := ((mem_swept visit now joining sound.keyed sound.swept).mp gone).2.1
    simpa [Mailroom.isShut] using shut
  · intro leaver listed
    exact (left leaver (List.mem_filter.mp listed).1).2

/-- A client that connects finds behind what it has not read the history of the room, from the
oldest message on, as far as there is room, and then at most the announcements of members of the
room that were removed. -/
theorem replay_arrivals {client : ClientId} (user room : String) (visit : Visit) (now : Timestamp)
    (sound : exchange.Sound) (stranger : exchange.hub.isRegistered client = false)
    (opened : (exchange.mail.box client).isOpen = true) :
    let box := exchange.mail.box client
    let home := exchange.hub.roomOrDefault room
    let joining : Act := .ask visit now ⟨client, .connect user room⟩
    ∃ leavers : List Member, Reaped exchange (exchange.step joining).hub client home leavers ∧
      arrivals client exchange joining =
        ((exchange.hub.history.recent home).take (box.capacity - box.queue.length)).map
            .broadcast ++
          leavers.map fun leaver => .left leaver.name leaver.room now := by
  intro box home joining
  have put := arrivals_departures client visit now ⟨client, .connect user room⟩ sound
  rw [addressed_entrant sound.keyed stranger] at put
  have free : box.free = box.capacity - box.queue.length := by
    simp only [Mailbox.free, box, opened, ↓reduceIte]
  -- Only leavers can be announced behind the history, as far as there still is room.
  have reaped := departures_reaped user room visit now sound stranger opened
  refine ⟨(departures visit now exchange ⟨client, .connect user room⟩ client).take
    (box.putAll ((exchange.hub.history.recent home).map .broadcast)).free, reaped.take _, ?_⟩
  rw [put, Mailbox.taken_eq_take, ← List.map_take, free]

end ChatRooms.Exchange
