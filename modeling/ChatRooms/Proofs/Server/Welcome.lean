import ChatRooms.Proofs.Server.Admission

/-! What a client that joins a room finds in its mailbox. Whatever it had not read stays in front;
then comes the history of the room, and what there is no room for is the newest of it; and then at
most some announcements, of members who were removed because their mailbox is closed. A session that
has read everything gets the whole history. -/
namespace ChatRooms

namespace Exchange

variable {exchange : Exchange}

-- Neither a message nor the announcement that somebody left reads like that of an entry.
theorem nobody_joined {client : ClientId} {user room : String} {visit : Visit} {now : Timestamp}
    {kept : List Broadcast} {home : String} {leavers : List Member}
    (arrived : arrivals client exchange (.ask visit now ⟨client, .connect user room⟩) =
      kept.map .broadcast ++ leavers.map fun leaver => .left leaver.name leaver.room now)
    (housed : ∀ leaver ∈ leavers, leaver.room = home) (name : String) (at_ : Timestamp) :
    Event.joined name home at_ ∉
      arrivals client exchange (.ask visit now ⟨client, .connect user room⟩) := by
  rw [arrived]
  intro told
  rcases List.mem_append.mp told with said | announced
  · obtain ⟨post, -, same⟩ := List.mem_map.mp said
    contradiction
  · obtain ⟨leaver, listed, same⟩ := List.mem_map.mp announced
    have read := joinedName?_joined name home at_
    rw [← same, housed leaver listed, joinedName?_left] at read
    contradiction

end Exchange

namespace Server

variable {config : Config} {server : Server} {id : ClientId} {user room : String}
  {visit : Visit} {now : Timestamp} {rest : List Request}

-- The mailbox of a session is large enough for whatever is kept of a room.
theorem Provisioned.whole_history (provisioned : server.Provisioned config)
    (opened : (server.mail.box id).isOpen = true) (place : String) :
    (server.registry.history.recent place).length < (server.mail.box id).capacity := by
  obtain ⟨capacity, sink⟩ := provisioned.exchange.sized id opened
  rw [mail, capacity]
  exact Nat.lt_of_le_of_lt (provisioned.exchange.bounded place) (historySize_lt sink)

/-- A session that has read everything finds the whole history when the hub has it join. -/
theorem Provisioned.welcome (provisioned : server.Provisioned config)
    (sound : server.hub.state.exchange.Sound) (running : server.hub.phase = .running)
    (unstopped : server.hub.signal ≠ .raised)
    (first : server.queued = ⟨id, .connect user room⟩ :: rest)
    (accepted : (server.hub.state.exchange.apply visit now ⟨id, .connect user room⟩).2 = .ok ())
    (opened : (server.mail.box id).isOpen = true) (empty : (server.mail.box id).queue = []) :
    let home := server.registry.roomOrDefault room
    ∃ after leavers, server.hubTurn? visit now = some after ∧
      Exchange.Reaped server.hub.state.exchange after.registry id home leavers ∧
      (after.mail.box id).queue = (server.registry.history.recent home).map .broadcast ++
        leavers.map fun leaver => .left leaver.name leaver.room now := by
  intro home
  obtain ⟨after, leavers, turned, reaped, queue⟩ :=
    hubTurn?_of_connect sound running unstopped first accepted opened
  have fits : (server.registry.history.recent home).length ≤
      (server.mail.box id).capacity - (server.mail.box id).queue.length := by
    rw [empty]
    exact Nat.le_of_lt (provisioned.whole_history opened home)
  rw [List.take_of_length_le fits, empty, List.nil_append] at queue
  exact ⟨after, leavers, turned, reaped, queue⟩

end Server

namespace Venue

open Server

/-- A client whose mailbox is open finds in it, once it has joined a room, what it had not read,
then the oldest messages of the history, as many as there is room for, and then nothing but that
members of the room have left who were removed for their closed mailboxes; of its own entrance it is
told nothing. With settings that mailboxes can be made for, every session can be opened that is
asked for, and one that has read everything finds the whole history of the room that it joins. -/
theorem welcome_of_connect (config : Config) :
    (∀ (acts : List Exchange.Act) (visit : Visit) (now : Timestamp) (client : ClientId)
      (user room : String),
      let before := Exchange.reached config acts
      let joining : Request := ⟨client, .connect user room⟩
      let after := (before.apply visit now joining).1
      let box := before.mail.box client
      let home := before.hub.roomOrDefault room
      let kept := before.hub.history.recent home
      (before.apply visit now joining).2 = .ok () → box.isOpen = true →
      ∃ leavers, Exchange.Reaped before after.hub client home leavers ∧
        (after.mail.box client).queue = box.queue ++
          (kept.take (min kept.length (box.capacity - box.queue.length))).map .broadcast ++
          leavers.map (fun leaver => .left leaver.name leaver.room now) ∧
        ∀ name at_, Event.joined name home at_ ∉
          (after.mail.box client).queue.drop box.queue.length) ∧
    (config.check = .ok () → config.historySize + 1 ≤ Mailbox.maxCapacity →
      config.clientCapacity ≤ Mailbox.maxCapacity →
      ∀ (start : Venue) (deeds : List Deed), start? config = some start →
      let before := (start.play deeds).server
      (∀ user room, (before.openSession? user room).isSome = true ∧
        (before.openSessionIn? user room).isSome = true) ∧
      ∀ (visit : Visit) (now : Timestamp) (id : ClientId) (user room : String)
        (rest : List Request),
        let joining : Request := ⟨id, .connect user room⟩
        let home := before.registry.roomOrDefault room
        before.hub.phase = .running → before.hub.signal ≠ .raised →
        before.queued = joining :: rest →
        (before.hub.state.exchange.apply visit now joining).2 = .ok () →
        (before.mail.box id).isOpen = true → (before.mail.box id).queue = [] →
        ∃ after leavers, before.hubTurn? visit now = some after ∧
          Exchange.Reaped before.hub.state.exchange after.registry id home leavers ∧
          (after.mail.box id).queue = (before.registry.history.recent home).map .broadcast ++
            leavers.map fun leaver => .left leaver.name leaver.room now) := by
  constructor
  · intro acts visit now client user room before joining after box home kept accepted opened
    have stranger := Hub.member?_eq_none_iff.mp ((Exchange.answer_connect ..).mp accepted)
    obtain ⟨leavers, reaped, arrived⟩ := Exchange.replay_arrivals user room visit now
      (Exchange.reached_sound config acts) stranger opened
    refine ⟨leavers, reaped, ?_, ?_⟩
    · have queue := Exchange.ask_queue client before visit now joining
      rw [arrived, ← List.append_assoc] at queue
      rw [Nat.min_comm, ← List.take_eq_take_min]
      exact queue
    · exact Exchange.nobody_joined arrived fun leaver listed => (reaped.present leaver listed).2
  · intro checked history client start deeds started before
    have provisioned : before.Provisioned config := by
      obtain ⟨server, opens, rfl⟩ := Option.map_eq_some_iff.mp started
      exact play_provisioned deeds (Server.start_provisioned opens)
    have sink : Mailbox.admits before.config.sessionCapacity = true := by
      rw [provisioned.settings, Mailbox.admits_iff, Config.sessionCapacity_le_iff]
      exact ⟨Config.sessionCapacity_pos checked, client, history⟩
    constructor
    · intro user room
      rw [openSession?, openSessionIn?_isSome, openSessionIn?_isSome]
      exact ⟨sink, sink⟩
    · intro visit now id user room rest joining home running unstopped first accepted opened empty
      exact provisioned.welcome (play_orderly deeds (start_orderly started)).sound running
        unstopped first accepted opened empty

-- Bob has room for one message of two when he joins, and ann for all there are.
theorem welcome_of_connect_of_small_mailbox :
    let now : Timestamp := ⟨0, 0, by decide, by decide, by decide⟩
    let acts : List Exchange.Act :=
      [.arrive ⟨1⟩ 8, .arrive ⟨2⟩ 8, .arrive ⟨3⟩ 2,
        .ask .enrolled now ⟨⟨1⟩, .connect "ann" "den"⟩,
        .ask .enrolled now ⟨⟨2⟩, .connect "ghost" "den"⟩,
        .ask .enrolled now ⟨⟨1⟩, .post "ann" "one" ""⟩,
        .ask .enrolled now ⟨⟨1⟩, .post "ann" "two" ""⟩,
        .ask .enrolled now ⟨⟨3⟩, .listUsers "den"⟩, .close ⟨2⟩]
    let config : Config := ⟨"general", 2, 64, 1⟩
    let before := Exchange.reached config acts
    let after := (before.apply .enrolled now ⟨⟨3⟩, .connect "bob" "den"⟩).1
    let start : Venue :=
      ⟨⟨config, ⟨Service.create config, ⟨⟨64, [], true⟩, 1⟩, .scheduled, .armed⟩, [], [], 2⟩,
        fun _ => .shared []⟩
    let call (id : ClientId) (wish : Wish) : List Deed :=
      [.act (.begin id now wish), .act (.proceed id 0)]
    let deeds : List Deed :=
      [.act (.openSession "bob" "den"), .act (.openSession "ann" "den"),
        .act (.turn .enrolled now .hub)] ++ call ⟨2⟩ .connect ++ call ⟨2⟩ (.post "hello") ++
        call ⟨3⟩ .connect ++ [.act (.turn .enrolled now .hub), .act (.turn .enrolled now .hub)]
    let server := (start.play deeds).server
    (∃ leavers, Exchange.Reaped before after.hub ⟨3⟩ "den" leavers ∧
        (after.mail.box ⟨3⟩).queue =
          [.users ["ann", "ghost"], .broadcast ⟨"ann", "one", "den", now⟩] ++
            leavers.map fun leaver => .left leaver.name leaver.room now) ∧
      start? config = some start ∧
      server.queued = [⟨⟨3⟩, .connect "ann" "den"⟩] ∧
      ∃ (met : Server) (leavers : List Member), server.hubTurn? .enrolled now = some met ∧
        (met.mail.box ⟨3⟩).queue = [.broadcast ⟨"bob", "hello", "den", now⟩] ++
          leavers.map fun leaver => .left leaver.name leaver.room now := by
  intro now acts config before after start call deeds server
  have kept : before.hub.history.recent (before.hub.roomOrDefault "den") =
      [⟨"ann", "one", "den", now⟩, ⟨"ann", "two", "den", now⟩] := by decide +kernel
  have unread : (before.mail.box ⟨3⟩).queue = [.users ["ann", "ghost"]] := by decide +kernel
  have size : (before.mail.box ⟨3⟩).capacity = 2 := by decide +kernel
  have first : server.queued = [⟨⟨3⟩, .connect "ann" "den"⟩] := by decide +kernel
  have said : server.registry.history.recent (server.registry.roomOrDefault "den") =
      [⟨"bob", "hello", "den", now⟩] := by decide +kernel
  obtain ⟨joins, whole⟩ := welcome_of_connect config
  obtain ⟨leavers, reaped, queue, -⟩ :=
    joins acts .enrolled now ⟨3⟩ "bob" "den" (by decide +kernel) (by decide +kernel)
  obtain ⟨-, welcomes⟩ := whole (by decide +kernel) (by decide) (by decide) start deeds rfl
  obtain ⟨met, others, turned, -, history⟩ :=
    welcomes .enrolled now ⟨3⟩ "ann" "den" [] (by decide +kernel) (by decide +kernel) first
      (by decide +kernel) (by decide +kernel) (by decide +kernel)
  simp only [before, after, server] at kept unread size first said ⊢
  rw [kept, unread, size] at queue
  rw [said] at history
  exact ⟨⟨leavers, reaped, queue⟩, rfl, first, met, others, turned, history⟩

end Venue
end ChatRooms
