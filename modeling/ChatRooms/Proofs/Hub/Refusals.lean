import ChatRooms.Proofs.Hub.Service

/-! Why requests are refused, and that nothing comes of those that are. The grounds are read off the
registry alone. Without any a request is carried out; with them the hub is afterwards what it was
before, and so are the mailboxes, whichever of them are full or closed. -/
namespace ChatRooms.Exchange

inductive Grounds (hub : Hub) : Request → Refusal → Prop where
  | alreadyConnected (sender : ClientId) (user room : String)
      (registered : ∃ member ∈ hub.members, member.id = sender) :
      Grounds hub ⟨sender, .connect user room⟩ (.alreadyConnected sender)
  | strangerDisconnects (sender : ClientId)
      (stranger : ¬∃ member ∈ hub.members, member.id = sender) :
      Grounds hub ⟨sender, .disconnect⟩ (.strangerDisconnects sender)
  | strangerPosts (sender : ClientId) (user content room : String)
      (stranger : ¬∃ member ∈ hub.members, member.id = sender) :
      Grounds hub ⟨sender, .post user content room⟩ (.strangerPosts sender)
  | noSuchUser (sender : ClientId) (letter : DirectMessage)
      (nobody : ¬∃ member ∈ hub.members, member.name = letter.recipient) :
      Grounds hub ⟨sender, .direct letter⟩ (.noSuchUser letter.recipient)

variable {hub : Hub} {exchange : Exchange} {request : Request} {refusal : Refusal}

theorem refusal?_of_grounds (grounds : Grounds hub request refusal) :
    refusal? hub request = some refusal := by
  cases grounds with
  | alreadyConnected sender user room registered =>
      exact if_pos (Hub.isRegistered_iff.mpr registered)
  | strangerDisconnects sender stranger | strangerPosts sender user content room stranger =>
      exact if_neg (mt Hub.isRegistered_iff.mp stranger)
  | noSuchUser sender letter nobody =>
      exact if_neg (by simpa using nobody)

theorem grounds_of_refusal? (refused : refusal? hub request = some refusal) :
    Grounds hub request refusal := by
  obtain ⟨sender, command⟩ := request
  cases command with
  | connect user room =>
      obtain ⟨registered, same⟩ := Option.ite_none_right_eq_some.mp refused
      cases same
      exact .alreadyConnected sender user room (Hub.isRegistered_iff.mp registered)
  | disconnect =>
      obtain ⟨stranger, same⟩ := Option.ite_none_left_eq_some.mp refused
      cases same
      exact .strangerDisconnects sender (mt Hub.isRegistered_iff.mpr stranger)
  | post user content room =>
      obtain ⟨stranger, same⟩ := Option.ite_none_left_eq_some.mp refused
      cases same
      exact .strangerPosts sender user content room (mt Hub.isRegistered_iff.mpr stranger)
  | direct letter =>
      obtain ⟨nobody, same⟩ := Option.ite_none_left_eq_some.mp refused
      cases same
      exact .noSuchUser sender letter (by simpa using nobody)
  | listUsers room => contradiction

theorem refusal?_eq_some_iff : refusal? hub request = some refusal ↔ Grounds hub request refusal :=
  ⟨grounds_of_refusal?, refusal?_of_grounds⟩

theorem refusal?_eq_none_iff :
    refusal? hub request = none ↔ ∀ refusal, ¬Grounds hub request refusal := by
  simp only [Option.eq_none_iff_forall_ne_some, ← refusal?_eq_some_iff, ne_eq]

theorem answer_error_iff (visit : Visit) (now : Timestamp) :
    (exchange.apply visit now request).2 = .error refusal ↔
      Grounds exchange.hub request refusal := by
  rw [apply_answer, ← refusal?_eq_some_iff]
  cases refusal? exchange.hub request <;> simp

theorem answer_ok_iff (visit : Visit) (now : Timestamp) :
    (exchange.apply visit now request).2 = .ok () ↔
      ∀ refusal, ¬Grounds exchange.hub request refusal := by
  rw [apply_answer, ← refusal?_eq_none_iff]
  cases refusal? exchange.hub request <;> simp

-- With nobody found closed, there is nobody to remove.
theorem prune_of_clean (visit : Visit) (now : Timestamp) (clean : exchange.hub.closed = []) :
    prune visit now exchange = exchange :=
  pruneRounds_of_none _ clean

/-- A refused request leaves the hub and the mailboxes as they were. -/
theorem apply_of_grounds (visit : Visit) (now : Timestamp) (clean : exchange.hub.closed = [])
    (grounds : Grounds exchange.hub request refusal) :
    exchange.apply visit now request = (exchange, .error refusal) := by
  have answer := (answer_error_iff visit now).mpr grounds
  unfold apply at answer ⊢
  cases executed : exchange.execute visit now request with
  | ok carried =>
      rw [executed] at answer
      contradiction
  | error reason =>
      rw [executed] at answer
      cases answer
      simp only [prune_of_clean visit now clean]

-- The task lets go of the sender's address, and that is all.
theorem handle_of_grounds {service : Service} (visit : Visit) (now : Timestamp)
    (clean : service.exchange.hub.closed = [])
    (grounds : Grounds service.exchange.hub request refusal) :
    service.handle visit now request =
      ⟨service.exchange.step (.release request.sender), service.refused ++ [refusal]⟩ := by
  simp only [Service.handle, Service.carryOut, apply_of_grounds visit now clean grounds]
  rfl

/-- Requests are refused exactly on the grounds there are against them, and listing the users of a
room never is. A refused request leaves the hub and every mailbox as they were, and nobody is
removed; all that the task of the hub does about it is to write the refusal down. So there is no
sequence of requests, whatever else goes on, that stops a hub: it is still in its loop and carries
out the next one. -/
theorem refused_on_grounds (config : Config) (acts : List Act) (visit : Visit) (now : Timestamp)
    (request : Request) (written : List Refusal) :
    let before := reached config acts
    let applied := before.apply visit now request
    let service : Service := ⟨before, written⟩
    let handled := service.handle visit now request
    (∀ refusal, applied.2 = .error refusal ↔ Grounds before.hub request refusal) ∧
    (applied.2 = .ok () ↔ ∀ refusal, ¬Grounds before.hub request refusal) ∧
    (∀ refusal, applied.2 = .error refusal →
      applied.1 = before ∧ handled.exchange.hub = before.hub ∧
      (∀ client, handled.exchange.mail.box client = before.mail.box client) ∧
      handled.refused = written ++ [refusal]) ∧
    (applied.2 = .ok () → handled.refused = written) ∧
    ∀ (loop : Loop Service Request) (occasions : List Occasion), loop.state = service →
      loop.phase = .running → loop.signal ≠ .raised → loop.channel.addresses ≠ 0 →
      let later := loop.meetAll occasions
      later.phase = .running ∧ written <+: later.state.refused ∧
      (∃ more, later.state.exchange = reached config more) ∧
      ∀ first rest, later.channel.box.queue = first :: rest →
        ∃ next, later.turn? (Service.actor visit now) = some next ∧ next.phase = .running ∧
          next.channel.box.queue = rest ∧ next.state = later.state.handle visit now first := by
  intro before applied service handled
  have clean : before.hub.closed = [] := (reached_sound config acts).swept
  refine ⟨fun refusal => answer_error_iff visit now, answer_ok_iff visit now,
    fun refusal refused => ?_, fun accepted => ?_, ?_⟩
  · have grounds := (answer_error_iff visit now).mp refused
    have unchanged := apply_of_grounds visit now clean grounds
    have done : handled = ⟨before.step (.release request.sender), written ++ [refusal]⟩ :=
      handle_of_grounds visit now clean grounds
    rw [done]
    exact ⟨congrArg Prod.fst unchanged, rfl, fun client => Mailroom.box_release _ _ _, rfl⟩
  · have none_refused := refusal?_eq_none_iff.mpr ((answer_ok_iff visit now).mp accepted)
    have added := Service.handle_refused visit now service request
    rw [none_refused] at added
    exact added.trans (List.append_nil _)
  · intro loop occasions state running untold addressed later
    have up : loop.Up config := ⟨running, untold, addressed, acts, congrArg (·.exchange) state⟩
    obtain ⟨still, forgets_none⟩ := up.meetAll occasions
    rw [state] at forgets_none
    exact ⟨still.running, forgets_none, still.arrived, fun first rest queued =>
      ⟨_, Loop.turn?_of_message still.running still.untold queued, still.running, rfl, rfl⟩⟩

-- A stranger speaks up twice among a full mailbox and a closed one.
theorem refused_on_grounds_of_stranger :
    let now : Timestamp := ⟨0, 0, by decide, by decide, by decide⟩
    let acts : List Act :=
      [.arrive ⟨1⟩ 1, .arrive ⟨2⟩ 1, .ask .enrolled now ⟨⟨1⟩, .connect "ann" "den"⟩,
        .ask .enrolled now ⟨⟨2⟩, .connect "bob" "den"⟩, .close ⟨2⟩]
    let intrusion : Request := ⟨⟨3⟩, .post "eve" "boo" "den"⟩
    let before := reached .default acts
    let loop : Loop Service Request := ⟨⟨before, []⟩, ⟨⟨8, [], true⟩, 1⟩, .running, .armed⟩
    let later := loop.meetAll [.hand intrusion, .turn .enrolled now, .hand intrusion]
    (before.mail.box ⟨1⟩).hasRoom = false ∧ (before.mail.box ⟨2⟩).isOpen = false ∧
      before.hub.isRegistered ⟨2⟩ = true ∧
      (before.apply .enrolled now intrusion).2 = .error (.strangerPosts ⟨3⟩) ∧
      (before.apply .enrolled now intrusion).1 = before ∧
      later.state.refused = [.strangerPosts ⟨3⟩] ∧
      ∃ next, later.turn? (Service.actor .enrolled now) = some next ∧ next.phase = .running ∧
        next.state = later.state.handle .enrolled now intrusion := by
  intro now acts intrusion before loop later
  have queued : later.channel.box.queue = [intrusion] := by decide +kernel
  have written : later.state.refused = [.strangerPosts ⟨3⟩] := by decide +kernel
  have stranger : ¬∃ member ∈ before.hub.members, member.id = ⟨3⟩ := by decide +kernel
  have full : (before.mail.box ⟨1⟩).hasRoom = false := by decide +kernel
  have shut : (before.mail.box ⟨2⟩).isOpen = false := by decide +kernel
  have registered : before.hub.isRegistered ⟨2⟩ = true := by decide +kernel
  obtain ⟨answers, -, unchanged, -, goes_on⟩ :=
    refused_on_grounds .default acts .enrolled now intrusion []
  have refused := (answers _).mpr (.strangerPosts ⟨3⟩ "eve" "boo" "den" stranger)
  obtain ⟨-, -, -, takes_next⟩ := goes_on loop
    [.hand intrusion, .turn .enrolled now, .hand intrusion] rfl rfl (by decide) (by decide)
  obtain ⟨next, turned, running, -, handled⟩ := takes_next intrusion [] queued
  exact ⟨full, shut, registered, refused, (unchanged _ refused).1, written, next, turned, running,
    handled⟩

end ChatRooms.Exchange
