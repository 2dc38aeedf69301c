import ChatRooms.Proofs.Server.Effect
import ChatRooms.Proofs.Terminal.Happening

/-! Runs of a server in which callers also leave their sessions to consoles. A console takes a
session over as it is, with whatever the session has been told and has not looked at; nobody else
looks into its mailbox from then on. -/
namespace ChatRooms

def Server.attend (server : Server) (owner : ClientId) (mode : Terminal.Mode)
    (sink : Terminal.Sink) (now : Timestamp) : Server :=
  match (server.seat? owner).filter fun seat => seat.hasHandle && seat.hasInbox with
  | none => server
  | some seat =>
      { server with
        seats := server.seats.filter (·.session.id ≠ owner)
        consoles := server.consoles ++
          [Terminal.Console.create seat.session mode sink now] }

def Server.asked (id : ClientId) (before after : Server) : List Command :=
  ((after.queued.drop before.queued.length).filter (·.sender = id)).map (·.command)

def Server.delivered (id : ClientId) (before after : Server) : List Event :=
  (after.mail.box id).queue.drop (before.mail.box id).queue.length

def Server.taken (id : ClientId) (server : Server) : Turn → List Event
  | .event owner =>
      if owner = id && (server.idleConsole? id).isSome then
        (server.mail.box id).queue.head?.toList
      else []
  | _ => []

namespace Venue

inductive Deed where
  | act (act : Act)
  | attend (owner : ClientId) (mode : Terminal.Mode) (sink : Terminal.Sink) (now : Timestamp)

/-- A caller looks into an inbox only while it has it, and leaves a session to a console only when
no call on it is in progress. -/
def perform (venue : Venue) : Deed → Venue
  | .act (.poll owner) =>
      if (venue.server.seat? owner).any (·.hasInbox) then venue.step (.poll owner) else venue
  | .act act => venue.step act
  | .attend owner mode sink now =>
      if (venue.activity owner).isIdle then
        { venue with server := venue.server.attend owner mode sink now }
      else venue

def play (venue : Venue) (deeds : List Deed) : Venue :=
  deeds.foldl perform venue

@[simp] theorem play_nil (venue : Venue) : venue.play [] = venue := rfl

@[simp] theorem play_cons (venue : Venue) (deed : Deed) (rest : List Deed) :
    venue.play (deed :: rest) = (venue.perform deed).play rest := rfl

theorem play_append (venue : Venue) (first second : List Deed) :
    venue.play (first ++ second) = (venue.play first).play second := by
  simp [play]

def gather {β : Type} (observe : Venue → Deed → List β) : Venue → List Deed → List β
  | _, [] => []
  | venue, deed :: rest => observe venue deed ++ gather observe (venue.perform deed) rest

theorem gather_append {β : Type} (observe : Venue → Deed → List β) (venue : Venue)
    (first second : List Deed) : gather observe venue (first ++ second) =
      gather observe venue first ++ gather observe (venue.play first) second := by
  induction first generalizing venue with
  | nil => rfl
  | cons deed rest ih => simp [gather, ih]

def asked (id : ClientId) (venue : Venue) (deed : Deed) : List Command :=
  Server.asked id venue.server (venue.perform deed).server

def delivered (id : ClientId) (venue : Venue) (deed : Deed) : List Event :=
  Server.delivered id venue.server (venue.perform deed).server

def taken (id : ClientId) (venue : Venue) : Deed → List Event
  | .act (.turn _ _ turn) => venue.server.taken id turn
  | _ => []

def Deed.supply? (id : ClientId) : Deed → Option Terminal.Supply
  | .act (.feed console octets) => if console = id then some (.octets octets) else none
  | .act (.endInput console) => if console = id then some .ended else none
  | _ => none

def supplies (id : ClientId) (deeds : List Deed) : List Terminal.Supply :=
  deeds.filterMap (Deed.supply? id)

end Venue

namespace Server

open Terminal

def Affords (server : Server) (id : ClientId) : Happening → Server → Prop
  | .sent command, middle => server.offer id command = .ok middle
  | .refused, middle =>
      (∃ command, server.offer id command = .error .closed) ∧ middle = server
  | .took event, middle =>
      ∃ mail, server.mail.receive id = (.message event, mail) ∧ middle = server.setMail mail
  | .supplied _, _ => False
  | .worked, middle | .read, middle => middle = server

inductive Passes (server : Server) : Option (ClientId × Happening) → Server → Prop where
  | stays : Passes server none server
  | stop : Passes server none { server with hub := server.hub.raiseStop }
  | hub (visit : Visit) (now : Timestamp) (next : Server)
      (turned : server.hubTurn? visit now = some next) : Passes server none next
  | openSeat (user room : String) (session : Session) (opened : Server)
      (created : server.newSession? user room = some (session, opened)) :
      Passes server none { opened with seats := opened.seats ++ [⟨session, true, true⟩] }
  | openConsole (user room : String) (mode : Mode) (sink : Sink) (now : Timestamp)
      (session : Session) (opened : Server)
      (created : server.newSession? user room = some (session, opened)) :
      Passes server none { opened with
        consoles := opened.consoles ++ [Console.create session mode sink now] }
  | enter (id : ClientId) (seat : Seat) (room : String) (found : server.seat? id = some seat) :
      Passes server none (server.setSeat { seat with session := seat.session.enter room })
  | offer (id : ClientId) (seat : Seat) (command : Command) (accepted : Server)
      (found : server.seat? id = some seat) (held : seat.hasHandle = true)
      (taken : server.offer id command = .ok accepted) : Passes server none accepted
  | poll (id : ClientId) (seat : Seat) (found : server.seat? id = some seat) :
      Passes server none (server.poll id).2
  | dropHandle (id : ClientId) (seat : Seat) (found : server.seat? id = some seat)
      (held : seat.hasHandle = true) :
      Passes server none
        ((server.setSeat { seat with hasHandle := false }).setMail (server.mail.release id))
  | dropInbox (id : ClientId) (seat : Seat) (found : server.seat? id = some seat) :
      Passes server none
        ((server.setSeat { seat with hasInbox := false }).setMail (server.mail.close id))
  | attend (id : ClientId) (seat : Seat) (mode : Mode) (sink : Sink) (now : Timestamp)
      (found : server.seat? id = some seat) (held : seat.hasHandle = true) :
      Passes server none { server with
        seats := server.seats.filter (·.session.id ≠ id)
        consoles := server.consoles ++ [Console.create seat.session mode sink now] }
  | supply (id : ClientId) (console next : Console) (supply : Supply)
      (found : server.console? id = some console)
      (goes : console.Goes (.supplied supply) next) :
      Passes server (some (id, .supplied supply)) (server.setConsole next)
  | console (id : ClientId) (console next : Console) (happening : Happening) (middle : Server)
      (found : server.console? id = some console) (goes : console.Goes happening next)
      (affords : server.Affords id happening middle) :
      Passes server (some (id, happening)) (middle.advanceConsole next)
  | desert (id : ClientId) (console : Console) (mail : Mailroom)
      (found : server.console? id = some console) (ready : console.isReady = true)
      (alone : server.mail.receive id = (.disconnected, mail)) :
      Passes server none (server.advanceConsole console.finish)

def atConsole (id : ClientId) (label : Option (ClientId × Happening)) : List Happening :=
  (label.toList.filter (·.1 = id)).map (·.2)

@[simp] theorem atConsole_none (id : ClientId) : atConsole id none = [] := rfl

@[simp] theorem atConsole_self (id : ClientId) (happening : Happening) :
    atConsole id (some (id, happening)) = [happening] := by
  simp [atConsole]

theorem atConsole_other {id other : ClientId} (happening : Happening) (apart : other ≠ id) :
    atConsole id (some (other, happening)) = [] := by
  simp [atConsole, apart]

theorem filterMap_atConsole {β : Type} (observe : Happening → Option β) (id owner : ClientId)
    (happening : Happening) : (atConsole id (some (owner, happening))).filterMap observe =
      if owner = id then (observe happening).toList else [] := by
  by_cases same : owner = id
  · subst same
    cases seen : observe happening <;> simp [seen]
  · simp [atConsole_other happening same, same]

variable {server next : Server} {id : ClientId} {console : Console}

theorem taskTurn_passes (found : server.console? id = some console)
    (turned : server.taskTurn? console = some next) :
    ∃ happening, Passes server (some (id, happening)) next ∧ happening.took? = none ∧
      happening.supply? = none := by
  have self : console.session.id = id := by simpa using List.find?_some found
  unfold taskTurn? at turned
  split at turned
  · contradiction
  · rename_i task tasks first
    cases task with
    | write text =>
        cases turned
        have goes : console.Goes .worked _ :=
          .print _ _ tasks _ first rfl (Console.write_emits _ text)
        exact ⟨.worked, .console _ _ _ _ _ found goes rfl, rfl, rfl⟩
    | endLine =>
        cases turned
        have goes : console.Goes .worked _ := .print _ _ tasks _ first rfl (Console.put_emits _ _)
        exact ⟨.worked, .console _ _ _ _ _ found goes rfl, rfl, rfl⟩
    | prompt =>
        cases turned
        have goes : console.Goes .worked _ := .print _ _ tasks _ first rfl (Console.put_emits _ _)
        exact ⟨.worked, .console _ _ _ _ _ found goes rfl, rfl, rfl⟩
    | finish =>
        cases turned
        have goes : console.Goes .worked _ := .finish tasks _ first (Console.finish_finishes _)
        exact ⟨.worked, .console _ _ _ _ _ found goes rfl, rfl, rfl⟩
    | move move =>
        cases move with
        | enter room =>
            cases turned
            exact ⟨.worked, .console _ _ _ _ _ found (.enter room tasks first) rfl, rfl, rfl⟩
        | send command =>
            simp only at turned
            split at turned
            · rename_i accepted offered
              cases turned
              rw [self] at offered
              exact ⟨.sent command, .console _ _ _ _ _ found (.send command tasks first) offered,
                rfl, rfl⟩
            · contradiction
            · rename_i offered
              cases turned
              rw [self] at offered
              exact ⟨.refused, .console _ _ _ _ _ found (.refuse command tasks first)
                ⟨⟨command, offered⟩, rfl⟩, rfl, rfl⟩

theorem idleConsole?_some (idle : server.idleConsole? id = some console) :
    server.console? id = some console ∧ console.isReady = true :=
  Option.filter_eq_some_iff.mp idle

theorem receive_empty {mail after : Mailroom} (empty : mail.receive id = (.empty, after)) :
    (mail.box id).queue = [] := by
  unfold Mailroom.receive Channel.receive Mailbox.take? at empty
  cases queued : (mail.channel id).box.queue with
  | nil => exact queued
  | cons event rest => simp [queued] at empty

theorem receive_disconnected {mail after : Mailroom}
    (alone : mail.receive id = (.disconnected, after)) :
    (mail.box id).queue = [] ∧ (mail.channel id).addresses = 0 := by
  unfold Mailroom.receive Channel.receive Mailbox.take? at alone
  cases queued : (mail.channel id).box.queue with
  | nil =>
      refine ⟨queued, ?_⟩
      by_cases none_left : (mail.channel id).addresses = 0
      · exact none_left
      · simp [queued, none_left] at alone
  | cons event rest => simp [queued] at alone

theorem receive_message {mail after : Mailroom} {event : Event}
    (arrived : mail.receive id = (.message event, after)) :
    ∃ rest, (mail.box id).queue = event :: rest ∧
      after = mail.setBox id { mail.box id with queue := rest } := by
  unfold Mailroom.receive Channel.receive Mailbox.take? at arrived
  cases queued : (mail.channel id).box.queue with
  | nil =>
      by_cases none_left : (mail.channel id).addresses = 0 <;>
        simp [queued, none_left] at arrived
  | cons first rest =>
      simp only [queued, Prod.mk.injEq, Receipt.message.injEq] at arrived
      obtain ⟨rfl, rfl⟩ := arrived
      exact ⟨rest, queued, rfl⟩

-- The event that is taken is the one that the turn is observed to take.
theorem eventTurn_passes (idle : server.idleConsole? id = some console)
    (turned : server.eventTurn? console = some next) :
    ∃ label, Passes server label next ∧
      (∀ other, server.taken other (.event id) =
        (atConsole other label).filterMap Happening.took?) ∧
      ∀ other, (atConsole other label).filterMap Happening.supply? = [] := by
  obtain ⟨found, ready⟩ := idleConsole?_some idle
  have self : console.session.id = id := by simpa using List.find?_some found
  unfold eventTurn? at turned
  rw [self] at turned
  split at turned
  · rename_i event mail arrived
    cases turned
    obtain ⟨rest, queued, _⟩ := receive_message arrived
    refine ⟨some (id, .took event), .console _ _ _ _ _ found (.take event ready)
      ⟨mail, arrived, rfl⟩, ?_, ?_⟩
    · intro other
      rw [filterMap_atConsole, Server.taken]
      by_cases same : id = other
      · subst same
        simp [idle, queued, Happening.took?]
      · simp [same]
    · intro other
      rw [filterMap_atConsole]
      simp [Happening.supply?]
  · contradiction
  · rename_i mail alone
    cases turned
    refine ⟨none, .desert _ _ mail found ready alone, ?_, fun _ => rfl⟩
    intro other
    rw [Server.taken]
    by_cases same : id = other
    · subst same
      simp [(receive_disconnected alone).1]
    · simp [same]

theorem turn_passes {visit : Visit} {now : Timestamp} {turn : Turn}
    (turned : server.turn? visit now turn = some next) :
    ∃ label, Passes server label next ∧
      (∀ other, server.taken other turn =
        (atConsole other label).filterMap Happening.took?) ∧
      ∀ other, (atConsole other label).filterMap Happening.supply? = [] := by
  have silent {owner : ClientId} {happening : Happening}
      (untaken : happening.took? = none) (unsupplied : happening.supply? = none)
      (other : ClientId) :
      [] = (atConsole other (some (owner, happening))).filterMap Happening.took? ∧
        (atConsole other (some (owner, happening))).filterMap Happening.supply? = [] := by
    simp [filterMap_atConsole, untaken, unsupplied]
  cases turn with
  | hub => exact ⟨none, .hub visit now next turned, fun _ => rfl, fun _ => rfl⟩
  | task owner =>
      obtain ⟨console, found, task⟩ := Option.bind_eq_some_iff.mp turned
      obtain ⟨happening, passes, untaken, unsupplied⟩ := taskTurn_passes found task
      exact ⟨_, passes, fun other => (silent untaken unsupplied other).1,
        fun other => (silent untaken unsupplied other).2⟩
  | line owner =>
      obtain ⟨console, idle, line⟩ := Option.bind_eq_some_iff.mp turned
      obtain ⟨found, ready⟩ := idleConsole?_some idle
      obtain ⟨read, reads, rfl⟩ := Option.map_eq_some_iff.mp line
      exact ⟨_, .console _ _ _ _ _ found (.read now read ready reads) rfl,
        fun other => (silent rfl rfl other).1, fun other => (silent rfl rfl other).2⟩
  | event owner =>
      obtain ⟨console, idle, event⟩ := Option.bind_eq_some_iff.mp turned
      exact eventTurn_passes idle event

-- A turn that cannot be taken takes no event.
theorem taken_of_no_turn {visit : Visit} {now : Timestamp} {turn : Turn}
    (stuck : server.turn? visit now turn = none) (id : ClientId) : server.taken id turn = [] := by
  cases turn with
  | hub | task | line => rfl
  | event owner =>
      rw [Server.taken]
      split
      · rename_i here
        obtain ⟨same, idle⟩ := Bool.and_eq_true_iff.mp here
        obtain rfl : owner = id := by simpa using same
        obtain ⟨console, idle⟩ := Option.isSome_iff_exists.mp idle
        have self : console.session.id = owner := by
          simpa using List.find?_some (idleConsole?_some idle).1
        rw [turn?, idle, Option.bind_some, eventTurn?, self] at stuck
        split at stuck
        · contradiction
        · rename_i empty
          rw [receive_empty empty]
          rfl
        · contradiction
      · rfl

end Server

namespace Venue

open Server Terminal

def Shows (venue : Venue) (deed : Deed) (label : Option (ClientId × Happening)) : Prop :=
  Passes venue.server label (venue.perform deed).server ∧
    (∀ id, taken id venue deed = (atConsole id label).filterMap Happening.took?) ∧
    ∀ id console, venue.server.console? id = some console →
      (deed.supply? id).toList = (atConsole id label).filterMap Happening.supply?

theorem newSession_passes {user room : String} {session : Session} {opened : Server}
    {venue : Venue} (opens : venue.server.openSessionIn? user room = some (session, opened)) :
    Passes venue.server none opened := by
  obtain ⟨⟨created, server⟩, fresh, same⟩ := Option.map_eq_some_iff.mp opens
  cases same
  exact .openSeat user room session server fresh

theorem openWith_passes {venue : Venue} {opens : Option (Session × Server)}
    (passes : ∀ session opened, opens = some (session, opened) →
      Passes venue.server none opened) :
    Passes venue.server none (venue.openWith opens).server := by
  cases opens with
  | none => exact .stays
  | some result => exact passes result.1 result.2 rfl

theorem withSeat_passes {venue : Venue} {caller : ClientId} {act : Seat → Venue}
    (passes : ∀ seat, venue.server.seat? caller = some seat → seat.hasHandle = true →
      Passes venue.server none (act seat).server) :
    Passes venue.server none (venue.withSeat caller act).server := by
  unfold withSeat
  split
  · exact .stays
  · rename_i seat filtered
    obtain ⟨found, held⟩ := Option.filter_eq_some_iff.mp filtered
    exact passes seat found held

theorem proceed_passes (venue : Venue) (caller : ClientId) (index : Nat) :
    Passes venue.server none (venue.proceed caller index).server := by
  apply withSeat_passes
  intro seat found held
  dsimp only
  cases (venue.activity caller).call index with
  | nil => exact .stays
  | cons first rest =>
      cases first with
      | enter room =>
          dsimp only
          rw [Server.enterRoom, found]
          exact .enter caller seat room found
      | send command =>
          dsimp only
          split
          · rename_i accepted taken
            exact .offer caller seat command accepted found held taken
          · exact .stays
          · exact .stays

theorem dropHandle_passes (venue : Venue) (owner : ClientId) :
    Passes venue.server none (venue.dropHandle owner).server := by
  apply withSeat_passes
  intro seat found held
  have filtered : (venue.server.seat? owner).filter (·.hasHandle) = some seat :=
    Option.filter_eq_some_iff.mpr ⟨found, held⟩
  dsimp only [setActivity]
  rw [Server.dropHandle, filtered]
  exact .dropHandle owner seat found held

theorem dropInbox_passes (server : Server) (owner : ClientId) :
    Passes server none (server.dropInbox owner) := by
  unfold Server.dropInbox
  split
  · rename_i seat filtered
    exact .dropInbox owner seat (Option.filter_eq_some_iff.mp filtered).1
  · exact .stays

theorem attend_passes (server : Server) (owner : ClientId) (mode : Mode)
    (sink : Sink) (now : Timestamp) :
    Passes server none (server.attend owner mode sink now) := by
  unfold Server.attend
  split
  · exact .stays
  · rename_i seat filtered
    obtain ⟨found, both⟩ := Option.filter_eq_some_iff.mp filtered
    exact .attend owner seat mode sink now found (Bool.and_eq_true_iff.mp both).1

-- Most deeds are done away from the consoles.
theorem shows_of_none {venue : Venue} {deed : Deed}
    (passes : Passes venue.server none (venue.perform deed).server)
    (untaken : ∀ id, taken id venue deed = []) (unsupplied : ∀ id, deed.supply? id = none) :
    venue.Shows deed none :=
  ⟨passes, untaken, fun id _ _ => by simp [unsupplied id]⟩

theorem shows_of_supply {venue : Venue} {deed : Deed} (owner : ClientId) (supply : Supply)
    (change : Console → Console)
    (performs : (venue.perform deed).server =
      match venue.server.console? owner with
      | some console => venue.server.setConsole (change console)
      | none => venue.server)
    (goes : ∀ console : Console, console.Goes (.supplied supply) (change console))
    (untaken : ∀ id, taken id venue deed = [])
    (supplied : ∀ id, deed.supply? id = if owner = id then some supply else none) :
    ∃ label, venue.Shows deed label := by
  cases found : venue.server.console? owner with
  | none =>
      refine ⟨none, ?_, untaken, ?_⟩
      · rw [performs, found]
        exact .stays
      · intro id console present
        have apart : owner ≠ id := by
          rintro rfl
          rw [found] at present
          contradiction
        simp [supplied, apart]
  | some console =>
      refine ⟨some (owner, .supplied supply), ?_, ?_, ?_⟩
      · rw [performs, found]
        exact .supply owner console _ supply found (goes console)
      · intro id
        rw [untaken, filterMap_atConsole]
        simp [Happening.took?]
      · intro id _ _
        rw [supplied, filterMap_atConsole]
        by_cases same : owner = id <;> simp [same, Happening.supply?]

/-- Every deed passes the server on in one of the ways there are. -/
theorem perform_shows (venue : Venue) (deed : Deed) : ∃ label, venue.Shows deed label := by
  have away {deed : Deed} (passes : Passes venue.server none (venue.perform deed).server)
      (untaken : ∀ id, taken id venue deed = []) (unsupplied : ∀ id, deed.supply? id = none) :
      ∃ label, venue.Shows deed label := ⟨none, shows_of_none passes untaken unsupplied⟩
  cases deed with
  | attend owner mode sink now =>
      refine away ?_ (fun _ => rfl) fun _ => rfl
      rw [perform]
      split
      · exact attend_passes venue.server owner mode sink now
      · exact .stays
  | act act =>
      cases act with
      | openSession user room =>
          exact away (openWith_passes fun _ _ opens => newSession_passes opens) (fun _ => rfl)
            fun _ => rfl
      | openSessionIn user room =>
          exact away (openWith_passes fun _ _ opens => newSession_passes opens) (fun _ => rfl)
            fun _ => rfl
      | openConsole user room mode sink now =>
          refine away (openWith_passes fun session opened opens => ?_) (fun _ => rfl) fun _ => rfl
          obtain ⟨⟨created, server⟩, fresh, same⟩ := Option.map_eq_some_iff.mp opens
          cases same
          exact .openConsole user _ mode sink now session server fresh
      | begin caller now wish =>
          refine away (withSeat_passes fun seat _ _ => ?_) (fun _ => rfl) fun _ => rfl
          split <;> exact .stays
      | proceed caller index => exact away (proceed_passes _ _ _) (fun _ => rfl) fun _ => rfl
      | abandon caller index =>
          exact away (withSeat_passes fun _ _ _ => .stays) (fun _ => rfl) fun _ => rfl
      | turn visit now turn =>
          have performs : (venue.perform (.act (.turn visit now turn))).server =
              (venue.server.turn? visit now turn).getD venue.server := rfl
          cases turned : venue.server.turn? visit now turn with
          | none =>
              refine away ?_ (fun id => taken_of_no_turn turned id) fun _ => rfl
              rw [performs, turned]
              exact .stays
          | some next =>
              obtain ⟨label, passes, takes, unsupplied⟩ := turn_passes turned
              refine ⟨label, ?_, takes, fun id _ _ => (unsupplied id).symm⟩
              rw [performs, turned]
              exact passes
      | poll owner =>
          refine away ?_ (fun _ => rfl) fun _ => rfl
          rw [perform]
          cases found : venue.server.seat? owner with
          | none => exact .stays
          | some seat =>
              split
              · exact .poll owner seat found
              · exact .stays
      | dropHandle owner => exact away (dropHandle_passes _ _) (fun _ => rfl) fun _ => rfl
      | dropInbox owner => exact away (dropInbox_passes _ _) (fun _ => rfl) fun _ => rfl
      | feed owner octets =>
          exact shows_of_supply owner (.octets octets) (fun console => console.feed octets) rfl
            (fun _ => .feed octets) (fun _ => rfl) fun _ => rfl
      | endInput owner =>
          exact shows_of_supply owner .ended Console.endInput rfl (fun _ => .endInput)
            (fun _ => rfl) fun _ => rfl
      | stop => exact away .stop (fun _ => rfl) fun _ => rfl

end Venue
end ChatRooms
