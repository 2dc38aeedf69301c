import ChatRooms.Proofs.Hub.Provision
import ChatRooms.Proofs.Server.OrderPreservation

/-! The history that is handed to whoever joins a room. The mailbox of a session is made to hold a
whole history and one event more, but what the session has not read yet takes its room in it; so the
history is handed over as far as there is room behind the unread events, and the newest messages of
it are lost when there is not. -/
namespace ChatRooms

namespace Server

open Terminal

structure Provisioned (config : Config) (server : Server) : Prop where
  settings : server.config = config
  exchange : server.hub.state.exchange.Provisioned config.historySize config.sessionCapacity

variable {config : Config} {server after : Server} {id : ClientId}

theorem Provisioned.aside (provisioned : server.Provisioned config)
    (same : after.config = server.config)
    (untouched : after.hub.state.exchange = server.hub.state.exchange) :
    after.Provisioned config :=
  ⟨same.trans provisioned.settings, untouched ▸ provisioned.exchange⟩

-- What callers and consoles do to a mailbox is an act in a run of the hub.
theorem Provisioned.act (provisioned : server.Provisioned config) (act : Exchange.Act)
    (same : after.config = server.config)
    (acted : after.hub.state.exchange = server.hub.state.exchange.step act)
    (nobody_new : ∀ client size, act ≠ .arrive client size) : after.Provisioned config where
  settings := same.trans provisioned.settings
  exchange := by
    rw [acted]
    exact provisioned.exchange.step act fun client size arrives =>
      absurd arrives (nobody_new client size)

theorem discard_provisioned {historySize capacity : Nat} (visit : Visit) (now : Timestamp)
    (service : Service) (requests : List Request)
    (provisioned : service.exchange.Provisioned historySize capacity) :
    (requests.foldl (Service.actor visit now).discard service).exchange.Provisioned historySize
      capacity := by
  induction requests generalizing service with
  | nil => exact provisioned
  | cons request rest ih =>
      exact ih _ (provisioned.step (.release request.sender) (by simp))

theorem Provisioned.turn {visit : Visit} {now : Timestamp} {loop : Loop Service Request}
    (provisioned : server.Provisioned config) (turns : server.hub.Turns visit now loop) :
    Provisioned config { server with hub := loop } := by
  refine ⟨provisioned.settings, ?_⟩
  cases turns with
  | start => exact provisioned.exchange
  | handle request rest queued =>
      simp only [Service.handle_exchange]
      exact (provisioned.exchange.apply visit now request).step (.release request.sender) (by simp)
  | finish ended =>
      exact discard_provisioned visit now _ _ (provisioned.exchange.step .reset (by simp))

theorem Provisioned.newcomer {user room : String} {session : Session} {opened : Server}
    (provisioned : server.Provisioned config)
    (created : server.newSession? user room = some (session, opened)) :
    opened.Provisioned config := by
  obtain ⟨mail, made, same⟩ := Option.map_eq_some_iff.mp created
  cases same
  obtain ⟨channel, fresh, rfl⟩ := Option.map_eq_some_iff.mp made
  obtain ⟨box, empty, rfl⟩ := Option.map_eq_some_iff.mp fresh
  unfold Mailbox.create? at empty
  split at empty
  · rename_i admitted
    cases empty
    rw [provisioned.settings] at admitted
    refine ⟨provisioned.settings, provisioned.exchange.of_boxes rfl fun id opened => ?_⟩
    by_cases self : id = ⟨server.nextId⟩
    · subst self
      refine Or.inl ⟨?_, admitted⟩
      simp [setMail, Mailroom.box, provisioned.settings]
    · simp only [setMail, Mailroom.box, Mailroom.channel_setChannel_ne _ _ self] at opened ⊢
      exact Or.inr ⟨opened, rfl⟩
  · contradiction

-- A console that has ended lets go of its address and of its mailbox.
theorem Provisioned.advance (provisioned : server.Provisioned config) (console : Console) :
    (server.advanceConsole console).Provisioned config := by
  unfold advanceConsole
  split
  · have released : Provisioned config
        ((server.setConsole console).setMail (server.mail.release console.session.id)) :=
      provisioned.act (.release console.session.id) rfl rfl (by simp)
    exact released.act (.close console.session.id) rfl rfl (by simp)
  · exact provisioned.aside rfl rfl

theorem Provisioned.offered {sender : ClientId} {command : Command}
    (provisioned : server.Provisioned config)
    (taken : server.offer sender command = .ok after) : after.Provisioned config := by
  rw [offer_accepted taken]
  exact provisioned.act (.share sender) rfl rfl (by simp)

theorem Provisioned.received (provisioned : server.Provisioned config) (id : ClientId) :
    (server.setMail (server.mail.receive id).2).Provisioned config :=
  provisioned.act (.read id) rfl rfl (by simp)

theorem Provisioned.afforded {happening : Happening} (provisioned : server.Provisioned config)
    (affords : server.Affords id happening after) : after.Provisioned config := by
  cases happening with
  | supplied supply => contradiction
  | sent command => exact provisioned.offered affords
  | refused =>
      obtain ⟨_, rfl⟩ := affords
      exact provisioned
  | worked | read =>
      cases affords
      exact provisioned
  | took event =>
      obtain ⟨mail, arrived, rfl⟩ := affords
      have kept := provisioned.received id
      rwa [arrived] at kept

/-- Every way in which a server passes on leaves it provisioned. -/
theorem Passes.provisioned {label : Option (ClientId × Happening)}
    (passes : server.Passes label after) (provisioned : server.Provisioned config) :
    after.Provisioned config := by
  cases passes with
  | stays => exact provisioned
  | stop | enter | attend | supply => exact provisioned.aside rfl rfl
  | hub visit now _ turned =>
      obtain ⟨loop, loop_turned, rfl⟩ := Option.map_eq_some_iff.mp turned
      exact provisioned.turn (Loop.turns_of_turn? loop_turned)
  | openSeat user room session opened created =>
      exact (provisioned.newcomer created).aside rfl rfl
  | openConsole user room mode sink now session opened created =>
      exact (provisioned.newcomer created).aside rfl rfl
  | offer id seat command _ found _ taken => exact provisioned.offered taken
  | poll id => exact provisioned.received id
  | dropHandle id => exact provisioned.act (.release id) rfl rfl (by simp)
  | dropInbox id => exact provisioned.act (.close id) rfl rfl (by simp)
  | console id console next happening middle found goes affords =>
      exact (provisioned.afforded affords).advance next
  | desert id console mail found ready alone => exact provisioned.advance _

theorem start_provisioned (started : start? config = some server) :
    server.Provisioned config := by
  obtain ⟨-, rfl⟩ := start?_some started
  exact ⟨rfl, rfl, fun _ => Nat.zero_le _, fun id opened => by contradiction⟩

-- A running hub that was not told to stop carries out the oldest request.
theorem hubTurn?_of_request {visit : Visit} {now : Timestamp} {request : Request}
    {rest : List Request} (running : server.hub.phase = .running)
    (unstopped : server.hub.signal ≠ .raised) (first : server.queued = request :: rest) :
    ∃ after, server.hubTurn? visit now = some after ∧ after.hub.state.exchange =
      (server.hub.state.exchange.step (.ask visit now request)).step (.release request.sender) := by
  have queued : server.hub.channel.box.queue = request :: rest := first
  simp only [hubTurn?, Loop.turn?, running, unstopped, ↓reduceIte, Channel.receive, Mailbox.take?,
    queued, Option.map_some]
  exact ⟨_, rfl, Service.handle_exchange visit now server.hub.state request⟩

/-- A client that the hub has join a room finds behind what it has not read the history of the room,
as far as there is room, and then that members who were removed have left. -/
theorem hubTurn?_of_connect {user room : String} {visit : Visit} {now : Timestamp}
    {rest : List Request} (sound : server.hub.state.exchange.Sound)
    (running : server.hub.phase = .running) (unstopped : server.hub.signal ≠ .raised)
    (first : server.queued = ⟨id, .connect user room⟩ :: rest)
    (accepted : (server.hub.state.exchange.apply visit now ⟨id, .connect user room⟩).2 = .ok ())
    (opened : (server.mail.box id).isOpen = true) :
    let home := server.registry.roomOrDefault room
    let box := server.mail.box id
    ∃ after leavers, server.hubTurn? visit now = some after ∧
      Exchange.Reaped server.hub.state.exchange after.registry id home leavers ∧
      (after.mail.box id).queue = box.queue ++
        ((server.registry.history.recent home).take (box.capacity - box.queue.length)).map
          .broadcast ++
        leavers.map fun leaver => .left leaver.name leaver.room now := by
  intro home box
  have stranger := Hub.member?_eq_none_iff.mp ((Exchange.answer_connect ..).mp accepted)
  obtain ⟨leavers, reaped, arrived⟩ :=
    Exchange.replay_arrivals user room visit now sound stranger opened
  obtain ⟨after, turned, exchange⟩ := hubTurn?_of_request running unstopped first
  have hub : after.registry = _ := congrArg Exchange.hub exchange
  have boxes : after.mail.box id = _ := congrArg (fun state => state.mail.box id) exchange
  refine ⟨after, leavers, turned, ?_, ?_⟩
  · rw [hub]
    exact reaped
  · rw [boxes, Exchange.step, Mailroom.box_release, List.append_assoc]
    exact (Exchange.ask_queue id server.hub.state.exchange visit now _).trans
      (congrArg (box.queue ++ ·) arrived)

-- A session's mailbox is larger than any history, unless it were larger than mailboxes can be.
theorem historySize_lt {config : Config}
    (admitted : Mailbox.admits config.sessionCapacity = true) :
    config.historySize < config.sessionCapacity := by
  have within : config.sessionCapacity ≤ Mailbox.maxCapacity := by
    simpa using (Bool.and_eq_true_iff.mp admitted).2
  have words : Mailbox.maxCapacity < Config.largestWord := by decide
  unfold Config.sessionCapacity at within ⊢
  omega

end Server

namespace Venue

open Server

theorem play_provisioned {config : Config} {venue : Venue} (deeds : List Deed)
    (provisioned : venue.server.Provisioned config) :
    (venue.play deeds).server.Provisioned config := by
  induction deeds generalizing venue with
  | nil => exact provisioned
  | cons deed rest ih =>
      obtain ⟨label, passes, _⟩ := perform_shows venue deed
      exact ih (passes.provisioned provisioned)

/-- What a session that joins a room finds in its mailbox, in any state of a server: what it had not
read, then the history of the room, from the oldest message on, as far as there is room behind it,
and after that nothing but that members of the room have left who were removed for their closed
mailboxes. The mailbox is made for a whole history and one event more, however much history is kept,
so the whole of it is handed over if no more than one event is unread, and whenever it fits. -/
theorem replay_behind_unread (config : Config) (start : Venue) (deeds : List Deed) (visit : Visit)
    (now : Timestamp) (id : ClientId) (user room : String) (rest : List Request)
    (started : start? config = some start)
    (running : (start.play deeds).server.hub.phase = .running)
    (unstopped : (start.play deeds).server.hub.signal ≠ .raised)
    (first : (start.play deeds).server.queued = ⟨id, .connect user room⟩ :: rest)
    (accepted : ((start.play deeds).server.hub.state.exchange.apply visit now
      ⟨id, .connect user room⟩).2 = .ok ())
    (opened : ((start.play deeds).server.mail.box id).isOpen = true) :
    let before := (start.play deeds).server
    let unread := (before.mail.box id).queue
    let home := before.registry.roomOrDefault room
    let kept := before.registry.history.recent home
    ∃ after leavers, before.hubTurn? visit now = some after ∧
      Exchange.Reaped before.hub.state.exchange after.registry id home leavers ∧
      (after.mail.box id).queue = unread ++
        (kept.take (config.sessionCapacity - unread.length)).map .broadcast ++
        leavers.map (fun leaver => .left leaver.name leaver.room now) ∧
      kept.length < config.sessionCapacity ∧
      (unread.length ≤ 1 ∨ unread.length + kept.length ≤ config.sessionCapacity →
        (after.mail.box id).queue = unread ++ kept.map .broadcast ++
          leavers.map fun leaver => .left leaver.name leaver.room now) := by
  intro before unread home kept
  have provisioned : before.Provisioned config := by
    obtain ⟨server, opens, rfl⟩ := Option.map_eq_some_iff.mp started
    exact play_provisioned deeds (Server.start_provisioned opens)
  have sound := (play_orderly deeds (start_orderly started)).sound
  obtain ⟨capacity, admitted⟩ := provisioned.exchange.sized id opened
  obtain ⟨after, leavers, turned, reaped, told⟩ :=
    hubTurn?_of_connect sound running unstopped first accepted opened
  have kept_short : kept.length < config.sessionCapacity :=
    Nat.lt_of_le_of_lt (provisioned.exchange.bounded _) (historySize_lt (capacity ▸ admitted))
  have size : (before.mail.box id).capacity = config.sessionCapacity := capacity
  rw [size] at told
  refine ⟨after, leavers, turned, reaped, told, kept_short, fun fits => ?_⟩
  have whole : kept.length ≤ config.sessionCapacity - unread.length := by omega
  rw [List.take_of_length_le whole] at told
  exact told

/-- Bob speaks in a room. Ann leaves so many replies unread and switches to that room, which the hub
has seen to but for the last of it: that she joins. -/
def switching (now : Timestamp) (replies : Nat) : List Deed :=
  let bob : ClientId := ⟨2⟩
  let ann : ClientId := ⟨3⟩
  let hub : Deed := .act (.turn .enrolled now .hub)
  let call (id : ClientId) (wish : Wish) : List Deed :=
    [.act (.begin id now wish), .act (.proceed id 0), hub]
  [.act (.openSession "bob" "den"), .act (.openSession "ann" ""), hub] ++
    call bob .connect ++ call bob (.post "hello") ++ call ann .connect ++
    (List.replicate replies (call ann .listUsers)).flatten ++
    call ann (.switchRoom "den") ++ [.act (.proceed ann 0), .act (.proceed ann 0)]

-- One unread reply leaves room for the one message of the history.
theorem replay_behind_unread_of_one_reply :
    let now : Timestamp := ⟨0, 0, by decide, by decide, by decide⟩
    let config : Config := ⟨"general", 1, 64, 1⟩
    let start : Venue :=
      ⟨⟨config, ⟨Service.create config, ⟨⟨64, [], true⟩, 1⟩, .scheduled, .armed⟩, [], [], 2⟩,
        fun _ => .shared []⟩
    let before := (start.play (switching now 1)).server
    start? config = some start ∧ before.queued = [⟨⟨3⟩, .connect "ann" "den"⟩] ∧
      ∃ after leavers, before.hubTurn? .enrolled now = some after ∧
        Exchange.Reaped before.hub.state.exchange after.registry ⟨3⟩ "den" leavers ∧
        (after.mail.box ⟨3⟩).queue =
          [.users ["ann"], .broadcast ⟨"bob", "hello", "den", now⟩] ++
            leavers.map fun leaver => .left leaver.name leaver.room now := by
  intro now config start before
  have first : before.queued = [⟨⟨3⟩, .connect "ann" "den"⟩] := by decide +kernel
  have unread : (before.mail.box ⟨3⟩).queue = [.users ["ann"]] := by decide +kernel
  have home : before.registry.roomOrDefault "den" = "den" := by decide +kernel
  have kept : before.registry.history.recent "den" = [⟨"bob", "hello", "den", now⟩] := by
    decide +kernel
  obtain ⟨after, leavers, turned, reaped, -, -, whole⟩ :=
    replay_behind_unread config start (switching now 1) .enrolled now ⟨3⟩ "ann" "den" [] rfl
      (by decide +kernel) (by decide +kernel) first (by decide +kernel) (by decide +kernel)
  simp only [before] at first unread home kept ⊢
  rw [unread, home, kept] at whole
  rw [home] at reaped
  refine ⟨rfl, first, after, leavers, turned, reaped, whole (Or.inl ?_)⟩
  exact Nat.le_refl 1

-- Two fill the mailbox, and the message is lost to her.
theorem replay_lost_of_two_replies :
    let now : Timestamp := ⟨0, 0, by decide, by decide, by decide⟩
    let config : Config := ⟨"general", 1, 64, 1⟩
    let start : Venue :=
      ⟨⟨config, ⟨Service.create config, ⟨⟨64, [], true⟩, 1⟩, .scheduled, .armed⟩, [], [], 2⟩,
        fun _ => .shared []⟩
    let before := (start.play (switching now 2)).server
    config.check = .ok () ∧ Mailbox.admits config.sessionCapacity = true ∧
      start? config = some start ∧ before.hub.phase = .running ∧ before.hub.signal = .armed ∧
      before.queued = [⟨⟨3⟩, .connect "ann" "den"⟩] ∧
      (before.hub.state.exchange.apply .enrolled now ⟨⟨3⟩, .connect "ann" "den"⟩).2 = .ok () ∧
      (before.mail.box ⟨3⟩).isOpen = true ∧
      before.registry.history.recent "den" = [⟨"bob", "hello", "den", now⟩] ∧
      (before.mail.box ⟨3⟩).queue = [.users ["ann"], .users ["ann"]] ∧
      (before.hubTurn? .enrolled now).map (fun after => (after.mail.box ⟨3⟩).queue) =
        some [.users ["ann"], .users ["ann"]] := by
  intro now config start before
  exact ⟨by decide +kernel, by decide, rfl, by decide +kernel, by decide +kernel,
    by decide +kernel, by decide +kernel, by decide +kernel, by decide +kernel, by decide +kernel,
    by decide +kernel⟩

end Venue
end ChatRooms
