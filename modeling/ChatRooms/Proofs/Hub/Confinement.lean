import ChatRooms.Proofs.Hub.Presence
import ChatRooms.Proofs.Hub.Stream

/-! Who is told what. An event reaches a client for one of few reasons, and every one of them has
the client in the room that the event is about, or the event meant for it alone. -/
namespace ChatRooms.Exchange

def Present (hub : Hub) (request : Request) (client : ClientId) (room : String) : Prop :=
  ∃ member ∈ roster hub request, member.id = client ∧ member.room = room

inductive Reason (visit : Visit) (now : Timestamp) (exchange : Exchange) (request : Request)
    (client : ClientId) : Event → Prop where
  | replay (member : Member) (post : Broadcast)
      (entered : entrant? exchange.hub request = some member) (self : member.id = client)
      (kept : post ∈ exchange.hub.history.recent member.room) :
      Reason visit now exchange request client (.broadcast post)
  | message (post : Broadcast) (spoken : said? now exchange.hub request = some post)
      (apart : request.sender ≠ client)
      (here : Present exchange.hub request client post.room) :
      Reason visit now exchange request client (.broadcast post)
  | entrance (other : Member) (entered : entrant? exchange.hub request = some other)
      (apart : other.id ≠ client) (here : Present exchange.hub request client other.room) :
      Reason visit now exchange request client (Event.joined other.name other.room now)
  | departure (other : Member)
      (gone : other ∈ quitter exchange.hub request ++ swept visit now exchange request)
      (apart : other.id ≠ client) (here : Present exchange.hub request client other.room) :
      Reason visit now exchange request client (Event.left other.name other.room now)
  | letter (sent : DirectMessage) (member : Member) (asked : request.command = .direct sent)
      (registered : member ∈ exchange.hub.members) (self : member.id = client)
      (named : member.name = sent.recipient)
      (alone : commandTries visit now exchange.hub request =
        [(client, .direct { sent with sentAt := now })]) :
      Reason visit now exchange request client (.direct { sent with sentAt := now })
  | answer (room : String) (names : List String) (asked : request = ⟨client, .listUsers room⟩)
      (listed : names.Perm (exchange.hub.usersIn (exchange.hub.roomOrDefault room))) :
      Reason visit now exchange request client (.users names)

variable {visit : Visit} {now : Timestamp} {exchange : Exchange} {request : Request}
  {client : ClientId} {event : Event}

theorem connect_reason {sender : ClientId} {user room : String}
    (keyed : exchange.hub.Keyed) (tried : (client, event) ∈
      commandTries visit now exchange.hub ⟨sender, .connect user room⟩) :
    Reason visit now exchange ⟨sender, .connect user room⟩ client event := by
  simp only [commandTries] at tried
  split at tried
  · contradiction
  · rename_i member entered
    rcases List.mem_append.mp tried with replayed | announced
    · simp only [List.map_map, List.mem_map, Function.comp_apply, Prod.mk.injEq] at replayed
      obtain ⟨post, kept, self, rfl⟩ := replayed
      exact .replay member post entered self kept
    · obtain ⟨_, heard, same⟩ := List.mem_map.mp announced
      cases same
      have now_keyed := entrant_keyed keyed entered
      obtain ⟨apart, other, present, self, home⟩ := (mem_audience now_keyed).mp heard
      exact .entrance member entered (Ne.symm apart)
        ⟨other, by simpa [roster, entered, Hub.enroll] using present, self, home⟩

theorem disconnect_reason {sender : ClientId} (keyed : exchange.hub.Keyed)
    (tried : (client, event) ∈ commandTries visit now exchange.hub ⟨sender, .disconnect⟩) :
    Reason visit now exchange ⟨sender, .disconnect⟩ client event := by
  simp only [commandTries] at tried
  split at tried
  · contradiction
  · rename_i member found
    obtain ⟨_, heard, same⟩ := List.mem_map.mp tried
    cases same
    obtain ⟨apart, other, present, self, home⟩ :=
      (mem_audience (Hub.strike_keyed _ keyed)).mp heard
    rw [Hub.id_of_member? found] at present
    exact .departure member (by simp [quitter, found]) (Ne.symm apart)
      ⟨other, by simpa [roster, Hub.strike] using present, self, home⟩

theorem post_reason {sender : ClientId} {user content room : String}
    (keyed : exchange.hub.Keyed) (tried : (client, event) ∈
      commandTries visit now exchange.hub ⟨sender, .post user content room⟩) :
    Reason visit now exchange ⟨sender, .post user content room⟩ client event := by
  simp only [commandTries] at tried
  split at tried
  · contradiction
  · rename_i post spoken
    obtain ⟨_, heard, same⟩ := List.mem_map.mp tried
    cases same
    obtain ⟨apart, other, present, self, home⟩ := (mem_audience keyed).mp heard
    exact .message post spoken (Ne.symm apart)
      ⟨other, by simpa [roster, entrant?] using present, self, home⟩

theorem direct_reason {sender : ClientId} {letter : DirectMessage} (keyed : exchange.hub.Keyed)
    (tried : (client, event) ∈ commandTries visit now exchange.hub ⟨sender, .direct letter⟩) :
    Reason visit now exchange ⟨sender, .direct letter⟩ client event := by
  cases found : (visit.arrange exchange.hub.members).find? (·.name = letter.recipient) with
  | none => simp [commandTries, found] at tried
  | some member =>
      have alone : commandTries visit now exchange.hub ⟨sender, .direct letter⟩ =
          [(member.handle, .direct { letter with sentAt := now })] := by
        simp [commandTries, found]
      rw [alone] at tried
      simp only [List.mem_singleton, Prod.mk.injEq] at tried
      obtain ⟨rfl, rfl⟩ := tried
      have registered : member ∈ exchange.hub.members :=
        (visit.perm _).mem_iff.mp (List.mem_of_find?_eq_some found)
      have named : member.name = letter.recipient := by simpa using List.find?_some found
      exact .letter letter member rfl registered (keyed.own member registered).symm named alone

theorem listUsers_reason {sender : ClientId} {room : String}
    (tried : (client, event) ∈ commandTries visit now exchange.hub ⟨sender, .listUsers room⟩) :
    Reason visit now exchange ⟨sender, .listUsers room⟩ client event := by
  simp only [commandTries, List.mem_singleton, Prod.mk.injEq] at tried
  obtain ⟨rfl, rfl⟩ := tried
  exact .answer room _ rfl (((visit.perm exchange.hub.members).filter _).map _)

theorem farewell_reason (keyed : exchange.hub.Keyed) (tried : (client, event) ∈
      farewells visit now (carried visit now exchange request).hub
        (swept visit now exchange request)) :
    Reason visit now exchange request client event := by
  obtain ⟨other, gone, rfl, apart, member, present, self, home⟩ :=
    of_mem_farewells (carried_keyed visit now request keyed) tried
  rw [(carried_carries visit now exchange request).members] at present
  exact .departure other (List.mem_append_right _ gone) (Ne.symm apart)
    ⟨member, present, self, home⟩

-- Everything that a request tries to deliver has a reason.
theorem reason_of_tries (keyed : exchange.hub.Keyed)
    (tried : (client, event) ∈ tries visit now exchange request) :
    Reason visit now exchange request client event := by
  rcases List.mem_append.mp tried with command_tried | farewell_tried
  · obtain ⟨sender, command⟩ := request
    cases command with
    | connect user room => exact connect_reason keyed command_tried
    | disconnect => exact disconnect_reason keyed command_tried
    | post user content room => exact post_reason keyed command_tried
    | direct letter => exact direct_reason keyed command_tried
    | listUsers room => exact listUsers_reason command_tried
  · exact farewell_reason keyed farewell_tried

theorem reason_of_arrival (keyed : exchange.hub.Keyed)
    (told : event ∈ arrivals client exchange (.ask visit now request)) :
    Reason visit now exchange request client event ∧
      (exchange.mail.box client).isOpen = true := by
  rw [arrivals_ask] at told
  constructor
  · exact reason_of_tries keyed (mem_addressed.mp ((Mailbox.taken_sublist _ _).subset told))
  · cases opened : (exchange.mail.box client).isOpen with
    | true => rfl
    | false =>
        rw [Mailbox.taken_closed _ _ opened] at told
        contradiction

/-- A client is registered in a room, or being registered in it by the request, and still is after
the request. -/
def Attends (visit : Visit) (now : Timestamp) (exchange : Exchange) (request : Request)
    (client : ClientId) (room : String) : Prop :=
  ∃ member, (exchange.hub.member? client = some member ∨
      entrant? exchange.hub request = some member) ∧
    (exchange.step (.ask visit now request)).hub.member? client = some member ∧
    member.room = room

theorem not_swept_of_open (sound : exchange.Sound)
    (opened : (exchange.mail.box client).isOpen = true) :
    client ∉ (swept visit now exchange request).map (·.id) := by
  intro gone
  obtain ⟨member, listed, rfl⟩ := List.mem_map.mp gone
  have effect := carried_carries visit now exchange request
  have shut := departed_shut (effect.allShut sound.allShut) listed
  rw [effect.open, opened] at shut
  contradiction

-- Whoever is present when the command is done and has an open mailbox stays.
theorem attends_of_present {room : String} (sound : exchange.Sound)
    (here : Present exchange.hub request client room)
    (opened : (exchange.mail.box client).isOpen = true) :
    Attends visit now exchange request client room := by
  obtain ⟨member, listed, rfl, home⟩ := here
  have remains : member ∈ (exchange.step (.ask visit now request)).hub.members := by
    rw [step, apply_members]
    exact mem_remaining.mpr ⟨listed, not_swept_of_open sound opened⟩
  have after_keyed := (step_sound (.ask visit now request) sound).keyed
  refine ⟨member, ?_, Hub.member?_of_mem after_keyed remains, home⟩
  rcases List.mem_append.mp (roster_subset _ _ listed) with registered | entered
  · exact Or.inl (Hub.member?_of_mem sound.keyed registered)
  · exact Or.inr (Option.mem_toList.mp entered)

theorem present_of_entrant {member : Member}
    (entered : entrant? exchange.hub request = some member) :
    Present exchange.hub request member.id member.room := by
  obtain ⟨user, room, asked, _, _⟩ := entrant?_eq_some entered
  exact ⟨member, by simp [roster, asked, entered], rfl, rfl⟩

theorem accepted_of_entrant {member : Member}
    (entered : entrant? exchange.hub request = some member) :
    (exchange.apply visit now request).2 = .ok () := by
  obtain ⟨user, room, asked, stranger, _⟩ := entrant?_eq_some entered
  simp [apply, execute, asked, connect, stranger]

theorem broadcast_confined {post : Broadcast} (sound : exchange.Sound)
    (told : .broadcast post ∈ arrivals client exchange (.ask visit now request)) :
    Attends visit now exchange request client post.room ∧
      (exchange.apply visit now request).2 = .ok () ∧
      ((∃ user room, request = ⟨client, .connect user room⟩) ∨
        (∃ sender claimed content room,
          request = ⟨sender, .post claimed content room⟩ ∧ sender ≠ client)) := by
  obtain ⟨reason, opened⟩ := reason_of_arrival sound.keyed told
  generalize caused : Event.broadcast post = event at reason
  cases reason with
  | replay member _ entered self kept =>
      cases caused
      obtain ⟨user, room, asked, _, same⟩ := entrant?_eq_some entered
      subst self
      -- A replayed message is of the room that it is kept under.
      have home := sound.filed member.room post kept
      refine ⟨home ▸ attends_of_present sound (present_of_entrant entered) opened,
        accepted_of_entrant entered, Or.inl ⟨user, room, ?_⟩⟩
      rw [← asked, same]
  | message _ spoken apart here =>
      cases caused
      obtain ⟨claimed, content, room, _, asked, _⟩ := said?_eq_some spoken
      refine ⟨attends_of_present sound here opened, apply_of_said spoken,
        Or.inr ⟨request.sender, claimed, content, room, ?_, apart⟩⟩
      rw [← asked]
  | entrance | departure | letter | answer => cases caused

theorem system_confined {notice : String} {at_ : Timestamp} (sound : exchange.Sound)
    (told : .system notice at_ ∈ arrivals client exchange (.ask visit now request)) :
    ∃ other room, other.id ≠ client ∧ Attends visit now exchange request client room ∧
      ((other ∈ entering room exchange (.ask visit now request) ∧
          .system notice at_ = Event.joined other.name room now) ∨
        (other ∈ leaving room exchange (.ask visit now request) ∧
          .system notice at_ = Event.left other.name room now)) := by
  obtain ⟨reason, opened⟩ := reason_of_arrival sound.keyed told
  generalize caused : Event.system notice at_ = event at reason
  cases reason with
  | entrance other entered apart here =>
      refine ⟨other, other.room, apart, attends_of_present sound here opened,
        Or.inl ⟨?_, rfl⟩⟩
      simp [entering, newcomer?, entered]
  | departure other gone apart here =>
      refine ⟨other, other.room, apart, attends_of_present sound here opened,
        Or.inr ⟨?_, rfl⟩⟩
      have left := leaving_ask visit now request other.room sound.keyed
      exact left.mem_iff.mpr (List.mem_filter.mpr ⟨gone, by simp⟩)
  | replay | message | letter | answer => cases caused

theorem users_confined {names : List String} (sound : exchange.Sound)
    (told : .users names ∈ arrivals client exchange (.ask visit now request)) :
    ∃ room, request = ⟨client, .listUsers room⟩ ∧
      names.Perm (exchange.hub.usersIn (exchange.hub.roomOrDefault room)) := by
  obtain ⟨reason, _⟩ := reason_of_arrival sound.keyed told
  generalize caused : Event.users names = event at reason
  cases reason with
  | answer room _ asked listed =>
      cases caused
      exact ⟨room, asked, listed⟩
  | replay | message | entrance | departure | letter => cases caused

-- A letter is delivered alone: a mailbox that takes it in is open, so nobody is found closed.
theorem direct_confined {letter : DirectMessage} (sound : exchange.Sound)
    (told : .direct letter ∈ arrivals client exchange (.ask visit now request)) :
    (∃ sent, request.command = .direct sent ∧ letter = { sent with sentAt := now }) ∧
      (∃ member, exchange.hub.member? client = some member ∧
        member.name = letter.recipient) ∧
      ∀ other, other ≠ client → arrivals other exchange (.ask visit now request) = [] := by
  obtain ⟨reason, opened⟩ := reason_of_arrival sound.keyed told
  generalize caused : Event.direct letter = event at reason
  cases reason with
  | letter sent member asked registered self named alone =>
      cases caused
      have found := Hub.member?_of_mem sound.keyed registered
      refine ⟨⟨sent, asked, rfl⟩, ⟨member, self ▸ found, named⟩, ?_⟩
      intro other apart
      have nobody : swept visit now exchange request = [] := by
        apply swept_of_open sound.swept
        simp [alone, opened]
      rw [arrivals_ask, tries, alone, nobody]
      simp [farewells, addressed_cons, Ne.symm apart, Mailbox.taken]
  | replay | message | entrance | departure | answer => cases caused

theorem concern_of_present {room : String}
    (here : Present exchange.hub request client room) :
    exchange.hub.isRegistered client = true ∨
      ∃ user room, request = ⟨client, .connect user room⟩ := by
  obtain ⟨member, listed, self, _⟩ := here
  rcases List.mem_append.mp (roster_subset _ _ listed) with registered | entered
  · exact Or.inl (Hub.isRegistered_iff.mpr ⟨member, registered, self⟩)
  · obtain ⟨user, room, asked, _, same⟩ := entrant?_eq_some (Option.mem_toList.mp entered)
    refine Or.inr ⟨user, room, ?_⟩
    rw [← asked, ← self, same]

theorem concern_of_reason (reason : Reason visit now exchange request client event) :
    exchange.hub.isRegistered client = true ∨
      (∃ room, request = ⟨client, .listUsers room⟩) ∨
      (∃ user room, request = ⟨client, .connect user room⟩) := by
  cases reason with
  | replay member post entered self kept =>
      subst self
      exact (concern_of_present (present_of_entrant entered)).imp_right Or.inr
  | message post spoken apart here => exact (concern_of_present here).imp_right Or.inr
  | entrance other entered apart here => exact (concern_of_present here).imp_right Or.inr
  | departure other gone apart here => exact (concern_of_present here).imp_right Or.inr
  | letter sent member asked registered self named alone =>
      exact Or.inl (Hub.isRegistered_iff.mpr ⟨member, registered, self⟩)
  | answer room names asked listed => exact Or.inr (Or.inl ⟨room, asked⟩)

theorem told_of_concern (sound : exchange.Sound)
    (told : event ∈ arrivals client exchange (.ask visit now request)) :
    exchange.hub.isRegistered client = true ∨
      (∃ room, request = ⟨client, .listUsers room⟩) ∨
      (∃ user room, request = ⟨client, .connect user room⟩) :=
  concern_of_reason (reason_of_arrival sound.keyed told).1

/-- Nothing is delivered to a client but what concerns it: messages of its room by others or its
replay, announcements of others in its room, the answer to its own question, and letters to its
name, of which nobody else learns. -/
theorem delivery_confined (config : Config) (acts : List Act) (visit : Visit) (now : Timestamp)
    (request : Request) (client : ClientId) :
    let before := reached config acts
    let act := Act.ask visit now request
    let told := arrivals client before act
    (∀ post, .broadcast post ∈ told →
      Attends visit now before request client post.room ∧
        (before.apply visit now request).2 = .ok () ∧
        ((∃ user room, request = ⟨client, .connect user room⟩) ∨
          (∃ sender claimed content room,
            request = ⟨sender, .post claimed content room⟩ ∧ sender ≠ client))) ∧
    (∀ notice at_, .system notice at_ ∈ told →
      ∃ other room, other.id ≠ client ∧ Attends visit now before request client room ∧
        ((other ∈ entering room before act ∧
            .system notice at_ = Event.joined other.name room now) ∨
          (other ∈ leaving room before act ∧
            .system notice at_ = Event.left other.name room now))) ∧
    (∀ names, .users names ∈ told →
      ∃ room, request = ⟨client, .listUsers room⟩ ∧
        names.Perm (before.hub.usersIn (before.hub.roomOrDefault room))) ∧
    (∀ letter, .direct letter ∈ told →
      (∃ sent, request.command = .direct sent ∧ letter = { sent with sentAt := now }) ∧
        (∃ member, before.hub.member? client = some member ∧
          member.name = letter.recipient) ∧
        ∀ other, other ≠ client → arrivals other before act = []) ∧
    (told ≠ [] → before.hub.isRegistered client = true ∨
      (∃ room, request = ⟨client, .listUsers room⟩) ∨
      (∃ user room, request = ⟨client, .connect user room⟩)) := by
  intro before act told
  have sound : before.Sound := reached_sound config acts
  refine ⟨fun _ => broadcast_confined sound, fun _ _ => system_confined sound,
    fun _ => users_confined sound, fun _ => direct_confined sound, ?_⟩
  intro some_told
  obtain ⟨event, listed⟩ := List.exists_mem_of_ne_nil told some_told
  exact told_of_concern sound listed

theorem delivery_confined_of_post_and_letter :
    let now : Timestamp := ⟨0, 0, by decide, by decide, by decide⟩
    let ann : ClientId := ⟨1⟩
    let bob : ClientId := ⟨2⟩
    let ghost : ClientId := ⟨3⟩
    let acts : List Act :=
      [.arrive ann 8, .arrive bob 8, .arrive ghost 8,
        .ask .enrolled now ⟨ann, .connect "ann" "den"⟩,
        .ask .enrolled now ⟨bob, .connect "bob" "den"⟩,
        .ask .enrolled now ⟨ghost, .connect "ghost" "den"⟩, .close ghost]
    let before := reached .default acts
    let post : Broadcast := ⟨"ann", "hello", "den", now⟩
    let posting : Request := ⟨ann, .post "anna" "hello" ""⟩
    let letter : DirectMessage := ⟨"ann", "bob", "psst", now⟩
    let sending : Act := .ask .enrolled now ⟨ann, .direct letter⟩
    (arrivals bob before (.ask .enrolled now posting) =
        [.broadcast post, Event.left "ghost" "den" now] ∧
      Attends .enrolled now before posting bob "den" ∧
      ∃ other room, other.id ≠ bob ∧ Attends .enrolled now before posting bob room ∧
        ((other ∈ entering room before (.ask .enrolled now posting) ∧
            Event.left "ghost" "den" now = Event.joined other.name room now) ∨
          (other ∈ leaving room before (.ask .enrolled now posting) ∧
            Event.left "ghost" "den" now = Event.left other.name room now))) ∧
    (arrivals bob before sending = [.direct letter] ∧
      ∀ other, other ≠ bob → arrivals other before sending = []) ∧
    (∃ room, (⟨ann, .listUsers "den"⟩ : Request) = ⟨ann, .listUsers room⟩ ∧
      ["ann", "bob", "ghost"].Perm (before.hub.usersIn (before.hub.roomOrDefault room))) ∧
    before.hub.isRegistered bob = true := by
  intro now ann bob ghost acts before post posting letter sending
  have told : arrivals bob before (.ask .enrolled now posting) =
      [.broadcast post, Event.left "ghost" "den" now] := by decide +kernel
  have told_letter : arrivals bob before sending = [.direct letter] := by decide +kernel
  have told_users : arrivals ann before (.ask .enrolled now ⟨ann, .listUsers "den"⟩) =
      [.users ["ann", "bob", "ghost"]] := by decide +kernel
  obtain ⟨of_post, of_notice, _, _, of_concern⟩ :=
    delivery_confined .default acts .enrolled now posting bob
  obtain ⟨_, _, _, of_letter, _⟩ :=
    delivery_confined .default acts .enrolled now ⟨ann, .direct letter⟩ bob
  obtain ⟨_, _, of_users, _, _⟩ :=
    delivery_confined .default acts .enrolled now ⟨ann, .listUsers "den"⟩ ann
  refine ⟨⟨told, ?_, ?_⟩, ⟨told_letter, ?_⟩, ?_, ?_⟩
  · exact (of_post post (by rw [told]; simp)).1
  · exact of_notice _ _ (by rw [told]; exact .tail _ (.head _))
  · exact (of_letter letter (by rw [told_letter]; simp)).2.2
  · exact of_users _ (by rw [told_users]; simp)
  · rcases of_concern (by rw [told]; simp) with registered | ⟨_, asked⟩ | ⟨_, _, asked⟩
    · exact registered
    · simp [posting] at asked
    · simp [posting] at asked

end ChatRooms.Exchange
