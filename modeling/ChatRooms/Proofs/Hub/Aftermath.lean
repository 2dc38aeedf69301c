import ChatRooms.Proofs.Hub.Comparison

/-! What is left to do when a command is done. The members that it tries to deliver to are all in
one room; if it finds one of them closed, the members of that room whose mailbox is closed are
removed, and those whose mailbox is open are told of each. Nothing else happens, and a mailbox that
is full is no reason for anything. -/
namespace ChatRooms.Exchange

/-- The members that a command tries to deliver to: who joins a room where something was said, and
the others there; the room of who leaves; the room that is spoken to, but for who speaks; the
recipient of a letter; and who asks for a list. -/
def approached (visit : Visit) (hub : Hub) (request : Request) : List Member :=
  match request.command with
  | .connect _ _ =>
      match entrant? hub request with
      | none => []
      | some entrant => (roster hub request).filter fun member =>
          member.room = entrant.room &&
            (member.id ≠ entrant.id || !(hub.history.recent entrant.room).isEmpty)
  | .disconnect =>
      match hub.member? request.sender with
      | none => []
      | some leaver => (roster hub request).filter (·.room = leaver.room)
  | .post _ _ room =>
      match hub.member? request.sender with
      | none => []
      | some author => hub.members.filter fun member =>
          member.room = (if room.isEmpty then author.room else room) &&
            member.id ≠ request.sender
  | .direct letter => ((visit.arrange hub.members).find? (·.name = letter.recipient)).toList
  | .listUsers _ => (hub.member? request.sender).toList

variable {visit : Visit} {now : Timestamp} {hub : Hub} {member : Member}

theorem approached_together (visit : Visit) (hub : Hub) (request : Request) :
    ∃ home, ∀ member ∈ approached visit hub request, member.room = home := by
  obtain ⟨sender, command⟩ := request
  cases command with
  | connect user room =>
      cases entering : entrant? hub ⟨sender, .connect user room⟩ with
      | none => exact ⟨"", by simp [approached, entering]⟩
      | some entrant => exact ⟨entrant.room, by simp +contextual [approached, entering]⟩
  | disconnect =>
      cases found : hub.member? sender with
      | none => exact ⟨"", by simp [approached, found]⟩
      | some leaver => exact ⟨leaver.room, by simp [approached, found]⟩
  | post user content room =>
      cases found : hub.member? sender with
      | none => exact ⟨"", by simp [approached, found]⟩
      | some author =>
          refine ⟨if room.isEmpty then author.room else room, ?_⟩
          simp +contextual [approached, found]
  | direct letter =>
      cases found : (visit.arrange hub.members).find? (·.name = letter.recipient) with
      | none => exact ⟨"", by simp [approached, found]⟩
      | some recipient => exact ⟨recipient.room, by simp [approached, found]⟩
  | listUsers room =>
      cases found : hub.member? sender with
      | none => exact ⟨"", by simp [approached, found]⟩
      | some asker => exact ⟨asker.room, by simp [approached, found]⟩

-- One event sent to others reaches a member exactly if it is one of them.
theorem fanout_ne_nil {clients : List ClientId} (event : Event) (client : ClientId)
    (once : clients.Nodup) :
    addressed client (clients.map (·, event)) ≠ [] ↔ client ∈ clients := by
  rw [addressed_fanout client clients event once]
  by_cases listed : client ∈ clients <;> simp [listed]

theorem reached_by_append (client : ClientId) (first second : List Delivery) :
    addressed client (first ++ second) ≠ [] ↔
      addressed client first ≠ [] ∨ addressed client second ≠ [] := by
  simp only [addressed_append, ne_eq, List.append_eq_nil_iff, not_and_or]

theorem mem_approached_connect (sender : ClientId) (user room : String) (keyed : hub.Keyed) :
    member ∈ approached visit hub ⟨sender, .connect user room⟩ ↔
      member ∈ roster hub ⟨sender, .connect user room⟩ ∧
        addressed member.id (commandTries visit now hub ⟨sender, .connect user room⟩) ≠ [] := by
  cases entering : entrant? hub ⟨sender, .connect user room⟩ with
  | none => simp [approached, commandTries, entering]
  | some entrant =>
      have enrolled := entrant_keyed keyed entering
      have members : roster hub ⟨sender, .connect user room⟩ = (hub.enroll entrant).members := by
        simp [roster, entering, Hub.enroll]
      simp only [approached, commandTries, entering, members, List.mem_filter]
      refine and_congr_right fun present => ?_
      have found := Hub.member?_of_mem enrolled present
      have replayed : addressed member.id
          (((hub.history.recent entrant.room).map .broadcast).map (entrant.id, ·)) ≠ [] ↔
            entrant.id = member.id ∧ hub.history.recent entrant.room ≠ [] := by
        rw [addressed_to]
        by_cases same : entrant.id = member.id <;> simp [same]
      have announced := (fanout_ne_nil (Event.joined entrant.name entrant.room now) member.id
        (audience_nodup visit entrant.room entrant.id enrolled)).trans
          (mem_audience_of_member? enrolled found)
      rw [reached_by_append, replayed, announced]
      by_cases same : member.id = entrant.id
      · have self : member = entrant :=
          enrolled.eq_of_id present (by simp [Hub.enroll]) same
        simp [self]
      · simp [same, Ne.symm same]

theorem mem_approached_disconnect (sender : ClientId) (keyed : hub.Keyed) :
    member ∈ approached visit hub ⟨sender, .disconnect⟩ ↔
      member ∈ roster hub ⟨sender, .disconnect⟩ ∧
        addressed member.id (commandTries visit now hub ⟨sender, .disconnect⟩) ≠ [] := by
  cases leaving : hub.member? sender with
  | none => simp [approached, commandTries, leaving]
  | some leaver =>
      simp only [approached, commandTries, leaving, List.mem_filter]
      refine and_congr_right fun present => ?_
      obtain ⟨registered, apart⟩ := List.mem_filter.mp present
      have other : member.id ≠ leaver.id := by
        rw [Hub.id_of_member? leaving]
        simpa using apart
      rw [addressed_farewell leaver keyed (Hub.member?_of_mem keyed registered)]
      by_cases home : member.room = leaver.room <;> simp [home, other]

theorem mem_approached_post (sender : ClientId) (user content room : String)
    (keyed : hub.Keyed) :
    member ∈ approached visit hub ⟨sender, .post user content room⟩ ↔
      member ∈ roster hub ⟨sender, .post user content room⟩ ∧
        addressed member.id (commandTries visit now hub ⟨sender, .post user content room⟩) ≠
          [] := by
  have members : roster hub ⟨sender, .post user content room⟩ = hub.members := by
    simp [roster, entrant?]
  cases found : hub.member? sender with
  | none => simp [approached, commandTries, said?, found]
  | some author =>
      simp only [approached, commandTries, said?, found, Option.map_some, members,
        List.mem_filter]
      refine and_congr_right fun present => ?_
      rw [fanout_ne_nil _ _ (audience_nodup _ _ _ keyed),
        mem_audience_of_member? keyed (Hub.member?_of_mem keyed present)]
      simp [and_comm]

-- A single delivery is to a member exactly if it is the one meant.
theorem mem_single {other : Member} (event : Event) (keyed : hub.Keyed)
    (listed : other ∈ hub.members) :
    member = other ↔ member ∈ hub.members ∧ addressed member.id [(other.id, event)] ≠ [] := by
  have single : addressed member.id [(other.id, event)] ≠ [] ↔ other.id = member.id := by
    rw [addressed_cons]
    by_cases same : other.id = member.id <;> simp [same]
  rw [single]
  constructor
  · rintro rfl
    exact ⟨listed, rfl⟩
  · rintro ⟨present, same⟩
    exact keyed.eq_of_id present listed same.symm

theorem mem_approached_direct (sender : ClientId) (letter : DirectMessage)
    (keyed : hub.Keyed) :
    member ∈ approached visit hub ⟨sender, .direct letter⟩ ↔
      member ∈ roster hub ⟨sender, .direct letter⟩ ∧
        addressed member.id (commandTries visit now hub ⟨sender, .direct letter⟩) ≠ [] := by
  have members : roster hub ⟨sender, .direct letter⟩ = hub.members := by
    simp [roster, entrant?]
  cases found : (visit.arrange hub.members).find? (·.name = letter.recipient) with
  | none => simp [approached, commandTries, found]
  | some recipient =>
      have listed : recipient ∈ hub.members :=
        (visit.perm hub.members).mem_iff.mp (List.mem_of_find?_eq_some found)
      simp only [approached, commandTries, found, members, Option.toList_some,
        List.mem_singleton]
      rw [keyed.own recipient listed]
      exact mem_single _ keyed listed

theorem mem_approached_listUsers (sender : ClientId) (room : String) (keyed : hub.Keyed) :
    member ∈ approached visit hub ⟨sender, .listUsers room⟩ ↔
      member ∈ roster hub ⟨sender, .listUsers room⟩ ∧
        addressed member.id (commandTries visit now hub ⟨sender, .listUsers room⟩) ≠ [] := by
  have members : roster hub ⟨sender, .listUsers room⟩ = hub.members := by
    simp [roster, entrant?]
  simp only [approached, commandTries, members]
  cases found : hub.member? sender with
  | none =>
      -- A stranger that asks is answered, but is no member.
      have nobody : ∀ other ∈ hub.members, other.id ≠ sender := by
        intro other present same
        have registered := Hub.isRegistered_iff.mpr ⟨other, present, same⟩
        rw [Hub.member?_eq_none_iff.mp found] at registered
        contradiction
      simp only [Option.toList_none, List.not_mem_nil, false_iff, not_and, not_not]
      intro present
      simp [addressed_cons, Ne.symm (nobody member present)]
  | some asker =>
      rw [← Hub.id_of_member? found]
      simp only [Option.toList_some, List.mem_singleton]
      exact mem_single _ keyed (Hub.mem_of_member? found)

/-- The members approached are those of the registry that a command leaves to which it has tried to
deliver something. -/
theorem mem_approached (now : Timestamp) (request : Request) (keyed : hub.Keyed) :
    member ∈ approached visit hub request ↔ member ∈ roster hub request ∧
      addressed member.id (commandTries visit now hub request) ≠ [] := by
  obtain ⟨sender, command⟩ := request
  cases command with
  | connect user room => exact mem_approached_connect sender user room keyed
  | disconnect => exact mem_approached_disconnect sender keyed
  | post user content room => exact mem_approached_post sender user content room keyed
  | direct letter => exact mem_approached_direct sender letter keyed
  | listUsers room => exact mem_approached_listUsers sender room keyed

variable {exchange : Exchange} {request : Request} {home : String}

-- Of the members, those approached are found closed whose mailbox is closed.
theorem found_closed_iff (sound : exchange.Sound)
    (present : member ∈ (carried visit now exchange request).hub.members) :
    member.id ∈ (carried visit now exchange request).hub.closed ↔
      member ∈ approached visit exchange.hub request ∧
        exchange.mail.isShut member.id = true := by
  have effect := carried_carries visit now exchange request
  rw [effect.members] at present
  rw [effect.closed, sound.swept, mem_approached now request sound.keyed, Ne,
    List.eq_nil_iff_forall_not_mem]
  simp [present, Mailroom.isShut, mem_addressed, and_comm]

theorem mem_swept_iff (sound : exchange.Sound)
    (together : ∀ member ∈ approached visit exchange.hub request, member.room = home) :
    member ∈ swept visit now exchange request ↔
      member ∈ (carried visit now exchange request).hub.members ∧
        exchange.mail.isShut member.id = true ∧ member.room = home ∧
          ∃ other ∈ approached visit exchange.hub request,
            exchange.mail.isShut other.id = true := by
  rw [mem_swept visit now request sound.keyed sound.swept,
    (carried_carries visit now exchange request).members]
  refine and_congr_right fun _ => and_congr_right fun _ => ?_
  constructor
  · rintro ⟨other, present, same, shut, tried⟩
    have reached := (mem_approached now request sound.keyed).mpr ⟨present, tried⟩
    exact ⟨same.symm.trans (together other reached), other, reached, shut⟩
  · rintro ⟨here, other, reached, shut⟩
    obtain ⟨present, tried⟩ := (mem_approached now request sound.keyed).mp reached
    exact ⟨other, present, (together other reached).trans here.symm, shut, tried⟩

theorem swept_id_iff (visit : Visit) (now : Timestamp) (request : Request)
    (keyed : exchange.hub.Keyed) (present : member ∈ roster exchange.hub request) :
    member.id ∈ (swept visit now exchange request).map (·.id) ↔
      member ∈ swept visit now exchange request := by
  constructor
  · intro gone
    obtain ⟨other, listed, same⟩ := List.mem_map.mp gone
    have listed_other := (swept_subset visit now exchange request).1 listed
    have self := (roster_keyed _ _ keyed).eq_of_id listed_other present same
    exact self ▸ listed
  · exact fun gone => List.mem_map_of_mem gone

-- Whoever is registered when the command is done stays, but for the swept.
theorem mem_members_after (visit : Visit) (now : Timestamp) (request : Request)
    (keyed : exchange.hub.Keyed) :
    member ∈ (exchange.apply visit now request).1.hub.members ↔
      member ∈ (carried visit now exchange request).hub.members ∧
        member ∉ swept visit now exchange request := by
  rw [apply_members, mem_remaining, (carried_carries visit now exchange request).members]
  exact and_congr_right fun present => not_congr (swept_id_iff visit now request keyed present)

theorem members_of_nobody (sound : exchange.Sound)
    (together : ∀ member ∈ approached visit exchange.hub request, member.room = home)
    (opened : ∀ member ∈ approached visit exchange.hub request,
      exchange.mail.isShut member.id = false) :
    (exchange.apply visit now request).1.hub.members =
      (carried visit now exchange request).hub.members := by
  have nobody : swept visit now exchange request = [] := by
    apply List.eq_nil_iff_forall_not_mem.mpr
    intro member gone
    obtain ⟨-, -, -, other, tried, shut⟩ := (mem_swept_iff sound together).mp gone
    rw [opened other tried] at shut
    contradiction
  rw [apply_members, nobody, remaining_nil, (carried_carries visit now exchange request).members]

theorem members_of_somebody (sound : exchange.Sound)
    (together : ∀ member ∈ approached visit exchange.hub request, member.room = home)
    (shut : ∃ member ∈ approached visit exchange.hub request,
      exchange.mail.isShut member.id = true) :
    (exchange.apply visit now request).1.hub.members =
      (carried visit now exchange request).hub.members.filter fun member =>
        !(member.room = home && exchange.mail.isShut member.id) := by
  rw [apply_members, remaining, (carried_carries visit now exchange request).members]
  apply List.filter_congr
  intro member present
  have gone := swept_id_iff visit now request sound.keyed present
  rw [mem_swept_iff sound together, (carried_carries visit now exchange request).members] at gone
  simp only [present, shut, true_and, and_true] at gone
  simp only [gone, decide_not, Bool.decide_and, Bool.decide_eq_true]
  exact congrArg (!·) (Bool.and_comm _ _)

-- After the command, a mailbox is offered what the removals come to.
theorem apply_box_carried (visit : Visit) (now : Timestamp) (exchange : Exchange)
    (request : Request) (client : ClientId) :
    (exchange.apply visit now request).1.mail.box client =
      ((carried visit now exchange request).mail.box client).putAll (addressed client
        (farewells visit now (carried visit now exchange request).hub
          (swept visit now exchange request))) := by
  rw [apply_eq_prune, prune, pruneRounds_box]
  rfl

theorem departures_at_home (sound : exchange.Sound)
    (together : ∀ member ∈ approached visit exchange.hub request, member.room = home)
    (present : member ∈ (carried visit now exchange request).hub.members) :
    departures visit now exchange request member.id =
      if member.room = home then swept visit now exchange request else [] := by
  have found : (roster exchange.hub request).find? (·.id = member.id) = some member := by
    rw [← (carried_carries visit now exchange request).members]
    exact Hub.member?_of_mem (carried_keyed visit now request sound.keyed) present
  have housed : ∀ leaver ∈ swept visit now exchange request, leaver.room = home :=
    fun leaver gone => ((mem_swept_iff sound together).mp gone).2.2.1
  rw [departures, found, Option.elim_some]
  split
  · rename_i here
    exact List.filter_eq_self.mpr fun leaver gone => by simp [housed leaver gone, here]
  · rename_i elsewhere
    exact List.filter_eq_nil_iff.mpr fun leaver gone => by
      simpa [housed leaver gone] using Ne.symm elsewhere

-- A member of the room whose mailbox is open is offered one announcement for each of the removed.
theorem box_at_home (sound : exchange.Sound)
    (together : ∀ member ∈ approached visit exchange.hub request, member.room = home)
    (present : member ∈ (carried visit now exchange request).hub.members)
    (here : member.room = home) (opened : exchange.mail.isShut member.id = false) :
    (exchange.apply visit now request).1.mail.box member.id =
      ((carried visit now exchange request).mail.box member.id).putAll
        ((swept visit now exchange request).map fun leaver =>
          Event.left leaver.name leaver.room now) := by
  rw [apply_box_carried, addressed_departures visit now request sound
      (by simpa [Mailroom.isShut] using opened),
    departures_at_home sound together present, if_pos here]

-- Nobody else is offered anything that it takes.
theorem box_elsewhere {client : ClientId} (sound : exchange.Sound)
    (together : ∀ member ∈ approached visit exchange.hub request, member.room = home)
    (elsewhere : ∀ member ∈ (carried visit now exchange request).hub.members,
      member.id = client → member.room = home → exchange.mail.isShut client = true) :
    (exchange.apply visit now request).1.mail.box client =
      (carried visit now exchange request).mail.box client := by
  rw [apply_box_carried]
  cases opened : (exchange.mail.box client).isOpen with
  | false =>
      apply Mailbox.putAll_closed
      rw [(carried_carries visit now exchange request).open, opened]
  | true =>
      have nobody : departures visit now exchange request client = [] := by
        cases found : (carried visit now exchange request).hub.member? client with
        | none =>
            rw [Hub.member?, (carried_carries visit now exchange request).members] at found
            rw [departures, found, Option.elim_none]
        | some member =>
            have present := Hub.mem_of_member? found
            have self := Hub.id_of_member? found
            have away : member.room ≠ home := by
              intro here
              simpa [Mailroom.isShut, opened] using elsewhere member present self here
            rw [← self, departures_at_home sound together present, if_neg away]
      rw [addressed_departures visit now request sound opened, nobody]
      rfl

/-- What follows when a command is done: the members that it tried to deliver to are in one room. If
none of them has a closed mailbox, the registry is what the command left; if one has, all members of
that room whose mailbox is closed are removed. Of each of them every member of the room whose
mailbox is open is told once, behind what the command delivered; nobody else is told anything, and
nobody whose mailbox is open is removed, however full it is. -/
theorem aftermath_of_command (config : Config) (acts : List Act) (visit : Visit)
    (now : Timestamp) (request : Request) :
    let before := reached config acts
    let handled := carried visit now before request
    let after := (before.apply visit now request).1
    let tried := approached visit before.hub request
    let shut := before.mail.isShut
    ∃ (home : String) (gone : List Member),
      (∀ member ∈ tried, member ∈ handled.hub.members ∧ member.room = home) ∧
      (∀ member ∈ handled.hub.members,
        (member.id ∈ handled.hub.closed ↔ member ∈ tried ∧ shut member.id = true) ∧
        ∃ offered, handled.mail.box member.id = (before.mail.box member.id).putAll offered ∧
          (offered ≠ [] ↔ member ∈ tried)) ∧
      ((∀ member ∈ tried, shut member.id = false) →
        after.hub.members = handled.hub.members) ∧
      ((∃ member ∈ tried, shut member.id = true) →
        after.hub.members = handled.hub.members.filter fun member =>
          !(member.room = home && shut member.id)) ∧
      (∀ member ∈ handled.hub.members, shut member.id = false → member ∈ after.hub.members) ∧
      (gone.map (·.id)).Nodup ∧
      (∀ member, member ∈ gone ↔
        member ∈ handled.hub.members ∧ member ∉ after.hub.members) ∧
      (∀ member ∈ handled.hub.members, member.room = home → shut member.id = false →
        after.mail.box member.id = (handled.mail.box member.id).putAll
          (gone.map fun leaver => Event.left leaver.name leaver.room now)) ∧
      ∀ client, (∀ member ∈ handled.hub.members, member.id = client → member.room = home →
          shut client = true) →
        after.mail.box client = handled.mail.box client := by
  intro before handled after tried shut
  have sound : before.Sound := reached_sound config acts
  have effect := carried_carries visit now before request
  obtain ⟨home, together⟩ := approached_together visit before.hub request
  have stays (member : Member) : member ∈ after.hub.members ↔
      member ∈ handled.hub.members ∧ member ∉ swept visit now before request :=
    mem_members_after visit now request sound.keyed
  refine ⟨home, swept visit now before request, fun member reached => ⟨?_, together member reached⟩,
    fun member present => ⟨found_closed_iff sound present, _, effect.box member.id, ?_⟩,
    members_of_nobody sound together, members_of_somebody sound together,
    fun member present opened => ?_, (swept_subset visit now before request).2,
    fun member => ?_,
    fun member present here opened => box_at_home sound together present here opened,
    fun client elsewhere => box_elsewhere sound together elsewhere⟩
  · rw [effect.members]
    exact ((mem_approached now request sound.keyed).mp reached).1
  · rw [effect.members] at present
    constructor
    · exact fun told => (mem_approached now request sound.keyed).mpr ⟨present, told⟩
    · exact fun reached => ((mem_approached now request sound.keyed).mp reached).2
  · refine (stays member).mpr ⟨present, fun gone => ?_⟩
    have closed : shut member.id = true := ((mem_swept_iff sound together).mp gone).2.1
    rw [opened] at closed
    contradiction
  · have listed (gone : member ∈ swept visit now before request) :=
      ((mem_swept_iff sound together).mp gone).1
    rw [stays]
    tauto

-- A ghost speaks, and another one is found: both go, and nobody else, not even with a full mailbox.
theorem aftermath_of_command_of_ghosts :
    let now : Timestamp := ⟨0, 0, by decide, by decide, by decide⟩
    let ann : Member := ⟨⟨1⟩, ⟨1⟩, "ann", "den"⟩
    let bob : Member := ⟨⟨2⟩, ⟨2⟩, "bob", "den"⟩
    let ghost : Member := ⟨⟨3⟩, ⟨3⟩, "ghost", "den"⟩
    let acts : List Act :=
      [.arrive ann.id 3, .arrive bob.id 8, .arrive ghost.id 8,
        .ask .enrolled now ⟨ann.id, .connect "ann" "den"⟩,
        .ask .enrolled now ⟨bob.id, .connect "bob" "den"⟩,
        .ask .enrolled now ⟨ghost.id, .connect "ghost" "den"⟩, .close bob.id, .close ghost.id]
    let posting : Request := ⟨ghost.id, .post "ghost" "boo" ""⟩
    let before := reached .default acts
    let handled := carried .enrolled now before posting
    let after := (before.apply .enrolled now posting).1
    approached .enrolled before.hub posting = [ann, bob] ∧
      before.mail.isShut bob.id = true ∧
      after.hub.members = handled.hub.members.filter (fun member =>
        !(member.room = "den" && before.mail.isShut member.id)) ∧
      (handled.mail.box ann.id).hasRoom = false ∧ ann ∈ after.hub.members ∧
      ∃ gone : List Member, (∀ member, member ∈ gone ↔
          member ∈ handled.hub.members ∧ member ∉ after.hub.members) ∧
        bob ∈ gone ∧ ghost ∈ gone ∧
        after.mail.box ann.id = (handled.mail.box ann.id).putAll
          (gone.map fun leaver => Event.left leaver.name leaver.room now) := by
  intro now ann bob ghost acts posting before handled after
  have tried : approached .enrolled before.hub posting = [ann, bob] := by decide +kernel
  have members : handled.hub.members = [ann, bob, ghost] := by decide +kernel
  have shut_bob : before.mail.isShut bob.id = true := by decide +kernel
  have open_ann : before.mail.isShut ann.id = false := by decide +kernel
  obtain ⟨home, gone, together, -, -, removed, kept, -, those, told, -⟩ :=
    aftermath_of_command .default acts .enrolled now posting
  have here : "den" = home := (together bob (by rw [tried]; simp)).2
  subst here
  have left := removed ⟨bob, by rw [tried]; simp, shut_bob⟩
  have present (member : Member) (listed : member ∈ [ann, bob, ghost]) :
      member ∈ handled.hub.members := by
    rw [members]
    exact listed
  have off_bob : bob ∉ after.hub.members := by decide +kernel
  have off_ghost : ghost ∉ after.hub.members := by decide +kernel
  have full : (handled.mail.box ann.id).hasRoom = false := by decide +kernel
  simp only [before, handled, after] at tried shut_bob open_ann present off_bob off_ghost full ⊢
  exact ⟨tried, shut_bob, left, full, kept ann (present ann (by simp)) open_ann, gone, those,
    (those bob).mpr ⟨present bob (by simp), off_bob⟩,
    (those ghost).mpr ⟨present ghost (by simp), off_ghost⟩,
    told ann (present ann (by simp)) rfl open_ann⟩

end ChatRooms.Exchange
