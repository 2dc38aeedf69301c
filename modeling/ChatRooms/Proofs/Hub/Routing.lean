import ChatRooms.Proofs.Hub.Aftermath

/-! Where a letter goes. It is offered to one of the clients registered under the name it is
addressed to, in whatever room that one is, and to nobody else; who sent it and when is no matter to
the routing. Only if the mailbox picked is closed does the registry change, and then in the room of
its owner, where the sender need never have been. -/
namespace ChatRooms.Exchange

variable {visit : Visit} {now : Timestamp} {exchange : Exchange} {sender : ClientId}
  {letter : DirectMessage} {picked : Member}

def ghostsIn (exchange : Exchange) (room : String) : List Member :=
  exchange.hub.members.filter fun member => member.room = room && exchange.mail.isShut member.id

def farewellsTo (gone : List Member) (now : Timestamp) : List Event :=
  gone.map fun leaver => Event.left leaver.name leaver.room now

theorem direct_not_mem_farewellsTo (gone : List Member) (letter : DirectMessage) :
    .direct letter ∉ farewellsTo gone now := by
  simp [farewellsTo, Event.left]

-- The stamp that the letter came with is overwritten before anything looks at it.
theorem direct_restamped (visit : Visit) (now stamp : Timestamp) (exchange : Exchange)
    (sender : ClientId) (letter : DirectMessage) :
    exchange.apply visit now ⟨sender, .direct { letter with sentAt := stamp }⟩ =
      exchange.apply visit now ⟨sender, .direct letter⟩ := rfl

theorem picked_of_named (visit : Visit)
    (named : ∃ member ∈ exchange.hub.members, member.name = letter.recipient) :
    ∃ picked, (visit.arrange exchange.hub.members).find? (·.name = letter.recipient) =
      some picked := by
  obtain ⟨member, present, name⟩ := named
  have visited : member ∈ visit.arrange exchange.hub.members :=
    (visit.perm _).mem_iff.mpr present
  exact Option.isSome_iff_exists.mp (List.find?_isSome.mpr ⟨member, visited, by simpa using name⟩)

theorem mem_of_picked
    (found : (visit.arrange exchange.hub.members).find? (·.name = letter.recipient) =
      some picked) : picked ∈ exchange.hub.members ∧ picked.name = letter.recipient :=
  ⟨(visit.perm _).mem_iff.mp (List.mem_of_find?_eq_some found),
    by simpa using List.find?_some found⟩

theorem approached_direct (sender : ClientId)
    (found : (visit.arrange exchange.hub.members).find? (·.name = letter.recipient) =
      some picked) : approached visit exchange.hub ⟨sender, .direct letter⟩ = [picked] := by
  simp [approached, found]

theorem direct_answer (visit : Visit) (now : Timestamp) (sender : ClientId)
    (named : ∃ member ∈ exchange.hub.members, member.name = letter.recipient) :
    (exchange.apply visit now ⟨sender, .direct letter⟩).2 = .ok () := by
  have known : exchange.hub.members.any (·.name = letter.recipient) = true := by
    simpa using named
  simp [apply_answer, refusal?, known]

-- Before anybody is removed, the letter has been offered to the one picked.
theorem direct_carried_members (visit : Visit) (now : Timestamp) (exchange : Exchange)
    (sender : ClientId) (letter : DirectMessage) :
    (carried visit now exchange ⟨sender, .direct letter⟩).hub.members = exchange.hub.members := by
  simp [(direct_carries visit now exchange sender letter).members, roster, entrant?]

theorem direct_carried_box (keyed : exchange.hub.Keyed)
    (found : (visit.arrange exchange.hub.members).find? (·.name = letter.recipient) =
      some picked) (client : ClientId) :
    (carried visit now exchange ⟨sender, .direct letter⟩).mail.box client =
      if picked.id = client then
        (exchange.mail.box client).put (.direct { letter with sentAt := now })
      else exchange.mail.box client := by
  rw [(direct_carries visit now exchange sender letter).box]
  simp only [commandTries, found, addressed_cons, addressed_nil, List.append_nil,
    keyed.own picked (mem_of_picked found).1]
  split <;> rfl

theorem direct_history (visit : Visit) (now : Timestamp) (exchange : Exchange)
    (sender : ClientId) (letter : DirectMessage) :
    (exchange.apply visit now ⟨sender, .direct letter⟩).1.hub.history = exchange.hub.history := by
  simp [apply_history, said?]

-- An open mailbox is found: what the delivery did is all there is.
theorem direct_to_open (now : Timestamp) (sender : ClientId) (sound : exchange.Sound)
    (found : (visit.arrange exchange.hub.members).find? (·.name = letter.recipient) =
      some picked) (opened : exchange.mail.isShut picked.id = false) :
    (exchange.apply visit now ⟨sender, .direct letter⟩).1.hub.members = exchange.hub.members ∧
      ∀ client, (exchange.apply visit now ⟨sender, .direct letter⟩).1.mail.box client =
        (carried visit now exchange ⟨sender, .direct letter⟩).mail.box client := by
  have tried := approached_direct sender found
  have together : ∀ member ∈ approached visit exchange.hub ⟨sender, .direct letter⟩,
      member.room = picked.room := by simp [tried]
  have nobody : ∀ member ∈ approached visit exchange.hub ⟨sender, .direct letter⟩,
      exchange.mail.isShut member.id = false := by simpa [tried] using opened
  refine ⟨?_, fun client => ?_⟩
  · rw [members_of_nobody sound together nobody, direct_carried_members]
  · have clean : swept visit now exchange ⟨sender, .direct letter⟩ = [] := by
      refine List.eq_nil_iff_forall_not_mem.mpr fun member gone => ?_
      obtain ⟨-, -, -, other, reached, shut⟩ := (mem_swept_iff sound together).mp gone
      simp [nobody other reached] at shut
    rw [apply_box_carried, clean]
    rfl

-- A closed one is found: the ghosts of the room go, and those who stay are told of each.
theorem direct_to_shut (now : Timestamp) (sender : ClientId) (sound : exchange.Sound)
    (found : (visit.arrange exchange.hub.members).find? (·.name = letter.recipient) =
      some picked) (closed : exchange.mail.isShut picked.id = true) :
    let after := (exchange.apply visit now ⟨sender, .direct letter⟩).1
    after.hub.members = exchange.hub.members.filter (fun member =>
        !(member.room = picked.room && exchange.mail.isShut member.id)) ∧
      ∃ gone : List Member, gone.Perm (exchange.ghostsIn picked.room) ∧
        (∀ member ∈ after.hub.members, member.room = picked.room →
          after.mail.box member.id =
            (exchange.mail.box member.id).putAll (farewellsTo gone now)) ∧
        ∀ client, (∀ member ∈ after.hub.members, member.id = client →
            member.room ≠ picked.room) →
          after.mail.box client = exchange.mail.box client := by
  intro after
  obtain ⟨present, -⟩ := mem_of_picked found
  have tried := approached_direct sender found
  have together : ∀ member ∈ approached visit exchange.hub ⟨sender, .direct letter⟩,
      member.room = picked.room := by simp [tried]
  have somebody : ∃ member ∈ approached visit exchange.hub ⟨sender, .direct letter⟩,
      exchange.mail.isShut member.id = true := by simpa [tried] using closed
  have same := direct_carried_members visit now exchange sender letter
  have members : after.hub.members = _ := members_of_somebody sound together somebody
  rw [same] at members
  -- The letter itself reached nobody.
  have untouched (client : ClientId) :
      (carried visit now exchange ⟨sender, .direct letter⟩).mail.box client =
        exchange.mail.box client := by
    rw [direct_carried_box sound.keyed found]
    split
    · rename_i self
      have unheard : (exchange.mail.box client).isOpen = false := by
        simpa [Mailroom.isShut, self] using closed
      exact Mailbox.put_full _ _ (by simp [unheard])
    · rfl
  have left_open {member : Member} (stays : member ∈ after.hub.members) :
      member ∈ exchange.hub.members ∧
        (member.room = picked.room → exchange.mail.isShut member.id = false) := by
    rw [members] at stays
    simpa [imp_iff_not_or] using stays
  refine ⟨members, swept visit now exchange ⟨sender, .direct letter⟩, ?_,
    fun member stays here => ?_, fun client elsewhere => ?_⟩
  · have once := (swept_subset visit now exchange ⟨sender, .direct letter⟩).2
    refine (List.perm_ext_iff_of_nodup (List.Nodup.of_map _ once)
      ((List.Nodup.of_map _ sound.keyed.distinct).filter _)).mpr fun member => ?_
    rw [mem_swept_iff sound together, same]
    simp only [List.mem_filter, Bool.and_eq_true, decide_eq_true_eq, somebody]
    tauto
  · obtain ⟨registered, opened⟩ := left_open stays
    rw [box_at_home sound together (by rwa [same]) here (opened here), untouched]
    rfl
  · rw [box_elsewhere sound together, untouched]
    rw [same]
    intro member registered self here
    cases shut : exchange.mail.isShut client with
    | true => rfl
    | false =>
        have stays : member ∈ after.hub.members := by
          rw [members]
          simp [registered, self, shut]
        exact absurd here (elsewhere member stays self)

-- Whatever the mailbox picked is like, it gets the letter if that fits and nothing else.
theorem direct_picked_queue (now : Timestamp) (sender : ClientId) (sound : exchange.Sound)
    (found : (visit.arrange exchange.hub.members).find? (·.name = letter.recipient) =
      some picked) :
    ((exchange.apply visit now ⟨sender, .direct letter⟩).1.mail.box picked.id).queue =
      (exchange.mail.box picked.id).queue ++
        if (exchange.mail.box picked.id).isOpen && (exchange.mail.box picked.id).hasRoom then
          [.direct { letter with sentAt := now }] else [] := by
  cases shut : exchange.mail.isShut picked.id with
  | false =>
      rw [(direct_to_open now sender sound found shut).2, direct_carried_box sound.keyed found,
        if_pos rfl, Mailbox.put_queue]
      split <;> simp
  | true =>
      obtain ⟨members, gone, -, -, elsewhere⟩ :=
        direct_to_shut now sender sound found shut
      rw [elsewhere picked.id]
      · have closed : (exchange.mail.box picked.id).isOpen = false := by
          simpa [Mailroom.isShut] using shut
        simp [closed]
      · intro member stays self here
        rw [members] at stays
        simp [self, here, shut] at stays

theorem direct_others (sound : exchange.Sound)
    (found : (visit.arrange exchange.hub.members).find? (·.name = letter.recipient) =
      some picked) {client : ClientId} (other : client ≠ picked.id) :
    ∃ offered, (exchange.apply visit now ⟨sender, .direct letter⟩).1.mail.box client =
        (exchange.mail.box client).putAll offered ∧ ∀ any, .direct any ∉ offered := by
  cases shut : exchange.mail.isShut picked.id with
  | false =>
      refine ⟨[], ?_, by simp⟩
      rw [(direct_to_open now sender sound found shut).2, direct_carried_box sound.keyed found,
        if_neg other.symm]
      rfl
  | true =>
      obtain ⟨-, gone, -, home, elsewhere⟩ :=
        direct_to_shut now sender sound found shut
      by_cases here : ∃ member ∈ (exchange.apply visit now ⟨sender, .direct letter⟩).1.hub.members,
          member.id = client ∧ member.room = picked.room
      · obtain ⟨member, stays, rfl, room⟩ := here
        exact ⟨_, home member stays room, direct_not_mem_farewellsTo gone⟩
      · exact ⟨[], elsewhere client fun member stays self room => here ⟨member, stays, self, room⟩,
          by simp⟩

/-- A letter to a name that somebody is registered under is routed to one of those it names, from
whomever it comes. It is put into that mailbox if it is open and has room, stamped by the hub
whatever stamp it came with, and no other mailbox is offered a letter. The history stays, and if the
mailbox picked is open so does everything else. If it is closed, the clients of that room whose
mailbox is closed are removed, each announced once to everybody left there. So a letter to a name
that only one client has arrives there if its mailbox is open and has room. -/
theorem letter_reaches_one (config : Config) (acts : List Act) (visit : Visit) (now : Timestamp)
    (sender : ClientId) (letter : DirectMessage)
    (named : ∃ member ∈ (reached config acts).hub.members, member.name = letter.recipient) :
    let before := reached config acts
    let after := (before.apply visit now ⟨sender, .direct letter⟩).1
    let stamped : Event := .direct ⟨letter.author, letter.recipient, letter.content, now⟩
    (before.apply visit now ⟨sender, .direct letter⟩).2 = .ok () ∧
    (∀ stamp, before.apply visit now ⟨sender, .direct { letter with sentAt := stamp }⟩ =
      before.apply visit now ⟨sender, .direct letter⟩) ∧
    after.hub.history = before.hub.history ∧
    (∃ picked ∈ before.hub.members, picked.name = letter.recipient ∧
      (after.mail.box picked.id).queue = (before.mail.box picked.id).queue ++
        (if (before.mail.box picked.id).isOpen && (before.mail.box picked.id).hasRoom then
          [stamped] else []) ∧
      (∀ client, client ≠ picked.id → ∃ offered,
        after.mail.box client = (before.mail.box client).putAll offered ∧
          ∀ any, .direct any ∉ offered) ∧
      (before.mail.isShut picked.id = false →
        after.hub.members = before.hub.members ∧
          ∀ client, client ≠ picked.id → after.mail.box client = before.mail.box client) ∧
      (before.mail.isShut picked.id = true →
        after.hub.members = before.hub.members.filter (fun member =>
          !(member.room = picked.room && before.mail.isShut member.id)) ∧
        ∃ gone : List Member, gone.Perm (before.ghostsIn picked.room) ∧
          (∀ member ∈ after.hub.members, member.room = picked.room →
            after.mail.box member.id =
              (before.mail.box member.id).putAll (farewellsTo gone now)) ∧
          ∀ client, (∀ member ∈ after.hub.members, member.id = client →
              member.room ≠ picked.room) →
            after.mail.box client = before.mail.box client)) ∧
    ∀ only ∈ before.hub.members, only.name = letter.recipient →
      (∀ other ∈ before.hub.members, other.name = letter.recipient → other = only) →
      (before.mail.box only.id).isOpen = true → (before.mail.box only.id).hasRoom = true →
      (after.mail.box only.id).queue = (before.mail.box only.id).queue ++ [stamped] := by
  intro before after stamped
  have sound : before.Sound := reached_sound config acts
  obtain ⟨picked, found⟩ := picked_of_named visit named
  obtain ⟨present, name⟩ := mem_of_picked found
  have queue := direct_picked_queue now sender sound found
  refine ⟨direct_answer visit now sender named,
    fun stamp => direct_restamped visit now stamp before sender letter,
    direct_history visit now before sender letter,
    ⟨picked, present, name, queue, fun client other => direct_others sound found other,
      fun opened => ?_, fun closed => direct_to_shut now sender sound found closed⟩,
    fun only _ _ unique opened room => ?_⟩
  · obtain ⟨members, boxes⟩ := direct_to_open now sender sound found opened
    refine ⟨members, fun client other => ?_⟩
    rw [boxes, direct_carried_box sound.keyed found, if_neg other.symm]
  · have self : picked = only := unique picked present name
    rw [self, opened, room] at queue
    exact queue

-- A stranger writes to somebody who is gone: a ghost that the letter was not for goes as well.
theorem letter_reaches_one_of_ghosts :
    let now : Timestamp := ⟨0, 0, by decide, by decide, by decide⟩
    let ann : Member := ⟨⟨1⟩, ⟨1⟩, "ann", "den"⟩
    let bob : Member := ⟨⟨2⟩, ⟨2⟩, "bob", "den"⟩
    let ghost : Member := ⟨⟨3⟩, ⟨3⟩, "ghost", "den"⟩
    let acts : List Act :=
      [.arrive ann.id 8, .arrive bob.id 8, .arrive ghost.id 8,
        .ask .enrolled now ⟨ann.id, .connect "ann" "den"⟩,
        .ask .enrolled now ⟨bob.id, .connect "bob" "den"⟩,
        .ask .enrolled now ⟨ghost.id, .connect "ghost" "den"⟩, .close bob.id, .close ghost.id]
    let letter : DirectMessage := ⟨"eve", "bob", "hey", now⟩
    let before := reached .default acts
    let after := (before.apply .enrolled now ⟨⟨9⟩, .direct letter⟩).1
    (∃ member ∈ before.hub.members, member.name = letter.recipient) ∧
      after.hub.members = [ann] ∧
      ∃ gone : List Member, gone.Perm [bob, ghost] ∧
        after.mail.box ann.id = (before.mail.box ann.id).putAll (farewellsTo gone now) := by
  intro now ann bob ghost acts letter before after
  have members : before.hub.members = [ann, bob, ghost] := by decide +kernel
  have shut : before.mail.isShut bob.id = true := by decide +kernel
  have ghosts : before.ghostsIn bob.room = [bob, ghost] := by decide +kernel
  have left : after.hub.members = [ann] := by decide +kernel
  have named : ∃ member ∈ before.hub.members, member.name = letter.recipient :=
    ⟨bob, by simp [members], rfl⟩
  have only : ∀ member ∈ before.hub.members, member.name = letter.recipient → member = bob := by
    rw [members]
    decide +kernel
  obtain ⟨-, -, -, ⟨picked, present, name, -, -, -, removed⟩, -⟩ :=
    letter_reaches_one .default acts .enrolled now ⟨9⟩ letter named
  have self : picked = bob := only picked present name
  rw [self] at removed
  obtain ⟨-, gone, those, told, -⟩ := removed shut
  have here : ann ∈ after.hub.members := by simp [left]
  rw [ghosts] at those
  simp only [before, after] at named left here ⊢
  exact ⟨named, left, gone, those, told ann here rfl⟩

end ChatRooms.Exchange
