import ChatRooms.Proofs.Actor.Advance
import ChatRooms.Proofs.Server.Projection

/-! What is done away from the hub. It leaves the registry alone and lets the hub neither start nor
stop nor handle anything; it can only put requests in the hub's mailbox, as long as that takes any.
A mailbox of a session loses what its owner receives, or is let go of with all that is in it. -/
namespace ChatRooms

namespace Server

open Terminal

variable {server middle after : Server} {received : ClientId → List Event}

/-- A mailbox that is still open was so before, and has lost what was received, the oldest first.
One that is closed is empty, unless it was closed before. -/
structure Shelved (received : List Event) (before after : Mailbox Event) : Prop where
  suffix : after.queue <:+ before.queue
  kept : after.isOpen = true → before.isOpen = true ∧ before.queue = received ++ after.queue
  shut : after.isOpen = false → after.queue = [] ∨ before.isOpen = false

theorem Shelved.shrinks {events : List Event} {before after : Mailbox Event}
    (shelved : Shelved events before after) :
    after.queue.length ≤ before.queue.length := shelved.suffix.length_le

theorem Shelved.refl (box : Mailbox Event) : Shelved [] box box :=
  ⟨List.suffix_refl _, fun opened => ⟨opened, rfl⟩, Or.inr⟩

theorem shelved_close (received : List Event) (before box : Mailbox Event) :
    Shelved received before box.close :=
  ⟨List.nil_suffix, nofun, fun _ => Or.inl rfl⟩

theorem Shelved.trans {events : List Event} {before between after : Mailbox Event}
    (first : Shelved events before between) (second : Shelved [] between after) :
    Shelved events before after := by
  refine ⟨second.suffix.trans first.suffix, fun opened => ?_, fun shut => ?_⟩
  · obtain ⟨still, same⟩ := second.kept opened
    obtain ⟨before_open, queue⟩ := first.kept still
    exact ⟨before_open, by rw [queue, same, List.nil_append]⟩
  · rcases second.shut shut with empty | between_shut
    · exact Or.inl empty
    · refine (first.shut between_shut).imp_left fun empty => ?_
      have shorter := second.shrinks
      rw [empty] at shorter
      exact List.length_eq_zero_iff.mp (Nat.le_zero.mp shorter)

structure Untouched (before after : Server) : Prop where
  phase : after.hub.phase = before.hub.phase
  told : after.hub.signal = before.hub.signal ∨ after.hub.signal = .raised
  opened : after.hub.channel.box.isOpen = before.hub.channel.box.isOpen
  registry : after.registry = before.registry
  queued : ∃ requests, after.queued = before.queued ++ requests ∧
    (before.hub.channel.box.isOpen = false → requests = [])

theorem untouched_of_same (phase : after.hub.phase = server.hub.phase)
    (signal : after.hub.signal = server.hub.signal)
    (channel : after.hub.channel = server.hub.channel)
    (registry : after.registry = server.registry) : Untouched server after :=
  ⟨phase, Or.inl signal, by rw [channel], registry, [],
    by rw [queued, channel, List.append_nil]; rfl, fun _ => rfl⟩

theorem Untouched.trans (first : Untouched server middle) (second : Untouched middle after) :
    Untouched server after := by
  refine ⟨second.phase.trans first.phase, ?_, second.opened.trans first.opened,
    second.registry.trans first.registry, ?_⟩
  · rcases second.told with same | raised
    · rw [same]
      exact first.told
    · exact Or.inr raised
  · obtain ⟨some, queue, none⟩ := first.queued
    obtain ⟨more, queue', none'⟩ := second.queued
    refine ⟨some ++ more, by rw [queue', queue, List.append_assoc], fun shut => ?_⟩
    rw [none shut, none' (first.opened.trans shut)]
    rfl

/-- Nobody has joined either, and the mailboxes of the sessions have lost no more than this. -/
structure Aside (received : ClientId → List Event) (before after : Server) : Prop
    extends Untouched before after where
  given : after.nextId = before.nextId
  boxes : ∀ id, Shelved (received id) (before.mail.box id) (after.mail.box id)

theorem Aside.trans (first : Aside received server middle)
    (second : Aside (fun _ => []) middle after) : Aside received server after :=
  ⟨first.toUntouched.trans second.toUntouched, second.given.trans first.given,
    fun id => (first.boxes id).trans (second.boxes id)⟩

theorem aside_of_same (hub : after.hub = server.hub) (nextId : after.nextId = server.nextId) :
    Aside (fun _ => []) server after := by
  refine ⟨untouched_of_same (by rw [hub]) (by rw [hub]) (by rw [hub]) ?_, nextId, fun id => ?_⟩
  · rw [Server.registry, hub]
    rfl
  · have same : after.mail = server.mail := congrArg (·.state.exchange.mail) hub
    rw [same]
    exact .refl _

theorem aside_setMail {mail : Mailroom}
    (boxes : ∀ id, Shelved (received id) (server.mail.box id) (mail.box id)) :
    Aside received server (server.setMail mail) :=
  ⟨untouched_of_same rfl rfl rfl rfl, rfl, boxes⟩

theorem shelved_closed (mail : Mailroom) (owner id : ClientId) :
    Shelved [] (mail.box id) ((mail.close owner).box id) := by
  by_cases here : id = owner
  · subst here
    rw [Mailroom.close, Mailroom.box_setBox_self]
    exact shelved_close _ _ _
  · rw [box_close_ne here]
    exact .refl _

theorem aside_stop (server : Server) :
    Aside (fun _ => []) server { server with hub := server.hub.raiseStop } :=
  ⟨⟨rfl, Or.inr rfl, rfl, rfl, [], (List.append_nil _).symm, fun _ => rfl⟩, rfl,
    fun _ => .refl _⟩

theorem aside_advanceConsole (server : Server) (console : Console) :
    Aside (fun _ => []) server (server.advanceConsole console) := by
  unfold advanceConsole
  split
  · refine (aside_of_same rfl rfl : Aside _ server (server.setConsole console)).trans ?_
    refine aside_setMail fun id => ?_
    have closed := shelved_closed ((server.setConsole console).mail.release console.session.id)
      console.session.id id
    rw [Mailroom.box_release] at closed
    exact closed
  · exact aside_of_same rfl rfl

theorem aside_offer {accepted : Server} {sender : ClientId} {command : Command}
    (taken : server.offer sender command = .ok accepted) :
    Aside (fun _ => []) server accepted := by
  have opened : server.hub.channel.box.isOpen = true := by
    unfold offer at taken
    rcases server.hub.offer_cases ⟨sender, command⟩ with ⟨-, closed⟩ | ⟨opened, -⟩ | ⟨opened, -⟩
    · simp [closed, Except.map] at taken
    · exact opened
    · exact opened
  rw [offer_accepted taken]
  refine ⟨⟨rfl, Or.inl rfl, rfl, rfl, [⟨sender, command⟩], rfl, fun shut => ?_⟩, rfl, fun id => ?_⟩
  · cases opened.symm.trans shut
  · have shared := Mailroom.box_share server.mail sender id
    change Shelved [] (server.mail.box id) ((server.mail.share sender).box id)
    rw [shared]
    exact .refl _

theorem shelved_receive (mail : Mailroom) (owner id : ClientId) :
    Shelved (if owner = id then (mail.box id).queue.head?.toList else []) (mail.box id)
      ((mail.receive owner).2.box id) := by
  by_cases here : owner = id
  · subst here
    rw [if_pos rfl]
    cases queued : (mail.box owner).queue with
    | nil =>
        have left : (mail.receive owner).2.box owner = mail.box owner := by
          rw [Mailroom.box] at queued
          simp [Mailroom.receive, Channel.receive, Mailbox.take?, queued, Mailroom.box]
        rw [left]
        exact .refl _
    | cons event rest =>
        have left : (mail.receive owner).2.box owner =
            { mail.box owner with queue := rest } := by
          rw [Mailroom.box] at queued
          simp [Mailroom.receive, Channel.receive, Mailbox.take?, queued, Mailroom.box]
        rw [left]
        refine ⟨?_, fun opened => ⟨opened, queued⟩, Or.inr⟩
        rw [queued]
        exact List.suffix_cons event rest
  · rw [if_neg here, box_receive_ne (Ne.symm here)]
    exact .refl _

/-! ## The turns of the consoles -/

variable {console : Console} {id : ClientId}

theorem taskTurn?_aside (turned : server.taskTurn? console = some after) :
    Aside (fun _ => []) server after := by
  unfold taskTurn? at turned
  split at turned
  · contradiction
  · rename_i task tasks _
    cases task with
    | write | endLine | prompt | finish =>
        cases turned
        exact aside_advanceConsole _ _
    | move move =>
        cases move with
        | enter room =>
            cases turned
            exact aside_advanceConsole _ _
        | send command =>
            simp only at turned
            split at turned
            · rename_i taken
              cases turned
              exact (aside_offer taken).trans (aside_advanceConsole _ _)
            · contradiction
            · cases turned
              exact aside_advanceConsole _ _

theorem eventTurn?_aside (idle : server.idleConsole? id = some console)
    (turned : server.eventTurn? console = some after) :
    Aside (fun other => server.taken other (.event id)) server after := by
  obtain ⟨found, ready⟩ := idleConsole?_some idle
  have self : console.session.id = id := by simpa using List.find?_some found
  have taken : (fun other => server.taken other (.event id)) =
      fun other => if id = other then (server.mail.box other).queue.head?.toList else [] := by
    funext other
    rw [Server.taken]
    by_cases here : id = other
    · subst here
      simp [idle]
    · simp [here]
  rw [taken]
  unfold eventTurn? at turned
  rw [self] at turned
  have shelved := shelved_receive server.mail id
  split at turned
  · rename_i event mail arrived
    cases turned
    rw [arrived] at shelved
    exact (aside_setMail shelved).trans (aside_advanceConsole _ _)
  · contradiction
  · rename_i mail alone
    cases turned
    have nothing : (fun other => if id = other then (server.mail.box other).queue.head?.toList
        else []) = fun _ => [] := by
      funext other
      split
      · rename_i here
        subst here
        rw [(receive_disconnected alone).1]
        rfl
      · rfl
    rw [nothing]
    exact aside_advanceConsole _ _

theorem turn?_aside {visit : Visit} {now : Timestamp} {turn : Turn} (own : turn ≠ .hub)
    (turned : server.turn? visit now turn = some after) :
    Aside (fun other => server.taken other turn) server after := by
  cases turn with
  | hub => contradiction
  | task owner =>
      obtain ⟨console, _, task⟩ := Option.bind_eq_some_iff.mp turned
      exact taskTurn?_aside task
  | line owner =>
      obtain ⟨console, _, line⟩ := Option.bind_eq_some_iff.mp turned
      obtain ⟨read, _, rfl⟩ := Option.map_eq_some_iff.mp line
      exact aside_advanceConsole _ _
  | event owner =>
      obtain ⟨console, idle, event⟩ := Option.bind_eq_some_iff.mp turned
      exact eventTurn?_aside idle event

/-! ## Everything that is done away from the hub -/

structure Elsewhere (received : ClientId → List Event) (before after : Server) : Prop
    extends Untouched before after where
  given : before.nextId ≤ after.nextId
  boxes : ∀ id, Shelved (received id) (before.mail.box id) (after.mail.box id) ∨
    (id = ⟨before.nextId⟩ ∧ before.nextId < after.nextId ∧ (after.mail.box id).queue = [] ∧
      received id = [])

theorem Aside.elsewhere (aside : Aside received server after) :
    Elsewhere received server after :=
  ⟨aside.toUntouched, Nat.le_of_eq aside.given.symm, fun id => Or.inl (aside.boxes id)⟩

theorem newSession?_elsewhere {user room : String} {session : Session} {opened : Server}
    (created : server.newSession? user room = some (session, opened)) :
    Elsewhere (fun _ => []) server opened := by
  obtain ⟨mail, made, same⟩ := Option.map_eq_some_iff.mp created
  cases same
  obtain ⟨channel, fresh, rfl⟩ := Option.map_eq_some_iff.mp made
  obtain ⟨box, admitted, rfl⟩ := Option.map_eq_some_iff.mp fresh
  refine ⟨untouched_of_same rfl rfl rfl rfl, Nat.le_succ _, fun id => ?_⟩
  by_cases new : id = ⟨server.nextId⟩
  · subst new
    refine Or.inr ⟨rfl, Nat.lt_succ_self _, ?_, rfl⟩
    unfold Mailbox.create? at admitted
    split at admitted
    · cases admitted
      simp [Server.mail, setMail, Mailroom.box]
    · contradiction
  · left
    have kept : (server.mail.setChannel ⟨server.nextId⟩ ⟨box, 1⟩).box id = server.mail.box id := by
      simp [Mailroom.box, Mailroom.channel_setChannel_ne _ _ new]
    change Shelved [] (server.mail.box id) ((server.mail.setChannel _ _).box id)
    rw [kept]
    exact .refl _

end Server

namespace Venue

open Server Terminal

variable {venue : Venue}

def received (id : ClientId) (venue : Venue) : Deed → List Event
  | .act (.poll owner) =>
      if owner = id && (venue.server.seat? owner).any (·.hasInbox) then
        (venue.server.mail.box id).queue.head?.toList
      else []
  | deed => taken id venue deed

theorem openWith_elsewhere {opens : Option (Session × Server)}
    (joins : ∀ session opened, opens = some (session, opened) →
      Elsewhere (fun _ => []) venue.server opened) :
    Elsewhere (fun _ => []) venue.server (venue.openWith opens).server := by
  cases opens with
  | none => exact (aside_of_same rfl rfl).elsewhere
  | some result => exact joins result.1 result.2 rfl

theorem openSessionIn?_elsewhere {user room : String} {session : Session} {opened : Server}
    (opens : venue.server.openSessionIn? user room = some (session, opened)) :
    Elsewhere (fun _ => []) venue.server opened := by
  obtain ⟨⟨created, server⟩, fresh, same⟩ := Option.map_eq_some_iff.mp opens
  cases same
  exact { newSession?_elsewhere fresh with }

theorem withSeat_aside {caller : ClientId} {act : Seat → Venue}
    (aside : ∀ seat, Aside (fun _ => []) venue.server (act seat).server) :
    Aside (fun _ => []) venue.server (venue.withSeat caller act).server := by
  unfold withSeat
  split
  · exact aside_of_same rfl rfl
  · exact aside _

theorem proceed_aside (venue : Venue) (caller : ClientId) (index : Nat) :
    Aside (fun _ => []) venue.server (venue.proceed caller index).server := by
  refine withSeat_aside fun seat => ?_
  dsimp only
  split
  · exact aside_of_same rfl rfl
  · unfold Server.enterRoom
    split
    · exact aside_of_same rfl rfl
    · exact aside_of_same rfl rfl
  · split
    · rename_i taken
      exact aside_offer taken
    · exact aside_of_same rfl rfl
    · exact aside_of_same rfl rfl

theorem dropHandle_aside (server : Server) (owner : ClientId) :
    Aside (fun _ => []) server (server.dropHandle owner) := by
  unfold Server.dropHandle
  split
  · rename_i seat _
    have seated : Aside (fun _ => []) server (server.setSeat { seat with hasHandle := false }) :=
      aside_of_same rfl rfl
    refine seated.trans (aside_setMail fun id => ?_)
    have released := Mailroom.box_release server.mail owner id
    rw [released]
    exact .refl _
  · exact aside_of_same rfl rfl

theorem dropInbox_aside (server : Server) (owner : ClientId) :
    Aside (fun _ => []) server (server.dropInbox owner) := by
  unfold Server.dropInbox
  split
  · rename_i seat _
    have seated : Aside (fun _ => []) server (server.setSeat { seat with hasInbox := false }) :=
      aside_of_same rfl rfl
    exact seated.trans (aside_setMail fun id => shelved_closed server.mail owner id)
  · exact aside_of_same rfl rfl

theorem attend_aside (server : Server) (owner : ClientId) (mode : Mode) (sink : Sink)
    (now : Timestamp) : Aside (fun _ => []) server (server.attend owner mode sink now) := by
  unfold Server.attend
  split
  · exact aside_of_same rfl rfl
  · exact aside_of_same rfl rfl

theorem feed_aside (server : Server) (owner : ClientId) (octets : List UInt8) :
    Aside (fun _ => []) server (server.feed owner octets) := by
  unfold Server.feed
  split
  · exact aside_of_same rfl rfl
  · exact aside_of_same rfl rfl

theorem endInput_aside (server : Server) (owner : ClientId) :
    Aside (fun _ => []) server (server.endInput owner) := by
  unfold Server.endInput
  split
  · exact aside_of_same rfl rfl
  · exact aside_of_same rfl rfl

theorem poll_aside (venue : Venue) (owner : ClientId) :
    Aside (fun id => received id venue (.act (.poll owner))) venue.server
      (venue.perform (.act (.poll owner))).server := by
  rw [perform]
  cases has : (venue.server.seat? owner).any (·.hasInbox) with
  | true =>
      have same : (fun id => received id venue (.act (.poll owner))) =
          fun id => if owner = id then (venue.server.mail.box id).queue.head?.toList else [] := by
        funext id
        simp [received, has]
      rw [same]
      exact aside_setMail fun id => shelved_receive venue.server.mail owner id
  | false =>
      have same : (fun id => received id venue (.act (.poll owner))) = fun _ => [] := by
        funext id
        simp [received, has]
      rw [same]
      exact aside_of_same rfl rfl

/-- Only the hub itself does more. -/
theorem perform_elsewhere {deed : Deed}
    (elsewhere : ∀ visit now, deed ≠ .act (.turn visit now .hub)) :
    Elsewhere (fun id => received id venue deed) venue.server (venue.perform deed).server := by
  cases deed with
  | attend owner mode sink now =>
      change Elsewhere (fun _ => []) _ _
      rw [perform]
      split
      · exact (attend_aside venue.server owner mode sink now).elsewhere
      · exact (aside_of_same rfl rfl).elsewhere
  | act act =>
      cases act with
      | openSession user room =>
          exact openWith_elsewhere fun _ _ opens => openSessionIn?_elsewhere opens
      | openSessionIn user room =>
          exact openWith_elsewhere fun _ _ opens => openSessionIn?_elsewhere opens
      | openConsole user room mode sink now =>
          refine openWith_elsewhere fun session opened opens => ?_
          obtain ⟨⟨created, server⟩, fresh, same⟩ := Option.map_eq_some_iff.mp opens
          cases same
          exact { newSession?_elsewhere fresh with }
      | begin caller now wish =>
          refine (withSeat_aside fun seat => ?_).elsewhere
          split
          · exact aside_of_same rfl rfl
          · exact aside_of_same rfl rfl
      | proceed caller index => exact (proceed_aside venue caller index).elsewhere
      | abandon caller index =>
          have aside : Aside (fun _ => []) venue.server (venue.abandon caller index).server :=
            withSeat_aside fun _ => aside_of_same rfl rfl
          exact aside.elsewhere
      | turn visit now turn =>
          have own : turn ≠ .hub := fun hub => elsewhere visit now (hub ▸ rfl)
          change Elsewhere (fun id => venue.server.taken id turn) venue.server
            ((venue.server.turn? visit now turn).getD venue.server)
          cases turned : venue.server.turn? visit now turn with
          | none =>
              have nothing : (fun id => venue.server.taken id turn) = fun _ => [] :=
                funext fun id => taken_of_no_turn turned id
              rw [nothing]
              exact (aside_of_same rfl rfl).elsewhere
          | some after => exact (turn?_aside own turned).elsewhere
      | poll owner => exact (poll_aside venue owner).elsewhere
      | dropHandle owner => exact (withSeat_aside fun _ => dropHandle_aside _ owner).elsewhere
      | dropInbox owner => exact (dropInbox_aside venue.server owner).elsewhere
      | feed owner octets => exact (feed_aside venue.server owner octets).elsewhere
      | endInput owner => exact (endInput_aside venue.server owner).elsewhere
      | stop => exact (aside_stop venue.server).elsewhere

end Venue
end ChatRooms
