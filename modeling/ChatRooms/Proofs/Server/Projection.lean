import ChatRooms.Proofs.Server.OrderPreservation

/-! A run seen from one console. What the others do leaves it where it is and at most adds to its
mailbox; what it does itself is one thing that happens to it. So every run is, for the console, a
list of what happens there, and all that is observed of it can be read off that list. -/
namespace ChatRooms

namespace Server

open Terminal

variable {server after middle : Server} {id : ClientId} {console next : Console}
  {label : Option (ClientId × Happening)} {happening : Happening}

theorem asked_of_queued (same : after.queued = server.queued) : asked id server after = [] := by
  simp [asked, same]

theorem delivered_of_queue
    (same : (after.mail.box id).queue = (server.mail.box id).queue) :
    delivered id server after = [] := by
  simp [delivered, same]

theorem asked_of_offer {sender : ClientId} {command : Command}
    (queued : after.queued = server.queued ++ [⟨sender, command⟩]) :
    asked id server after = if sender = id then [command] else [] := by
  by_cases same : sender = id <;> simp [asked, queued, same]

structure Unmoved (id : ClientId) (before after : Server) : Prop where
  console : after.console? id = before.console? id
  asked : asked id before after = []
  box : ∃ events, (after.mail.box id).queue = (before.mail.box id).queue ++ events

theorem unmoved_of_same (console : after.console? id = server.console? id)
    (queued : after.queued = server.queued) (box : after.mail.box id = server.mail.box id) :
    Unmoved id server after :=
  ⟨console, asked_of_queued queued, [], by rw [box, List.append_nil]⟩

theorem box_close_ne {mail : Mailroom} {other : ClientId} (apart : other ≠ id) :
    (mail.close id).box other = mail.box other :=
  Mailroom.box_setBox_ne mail _ apart

theorem box_receive_ne {mail : Mailroom} {other : ClientId} (apart : other ≠ id) :
    (mail.receive id).2.box other = mail.box other := by
  simp [Mailroom.receive, Mailroom.box, Mailroom.channel_setChannel_ne _ _ apart]

theorem box_discard (visit : Visit) (now : Timestamp) (service : Service)
    (requests : List Request) (id : ClientId) :
    (requests.foldl (Service.actor visit now).discard service).exchange.mail.box id =
      service.exchange.mail.box id := by
  induction requests generalizing service with
  | nil => rfl
  | cons request rest ih => exact (ih (service.release request.sender)).trans (by
      simp [Service.release])

-- A turn of the hub takes from the requests and adds to the mailboxes.
theorem turn_unmoved {visit : Visit} {now : Timestamp} {loop : Loop Service Request}
    (turns : server.hub.Turns visit now loop) (id : ClientId) :
    Unmoved id server { server with hub := loop } := by
  cases turns with
  | start => exact unmoved_of_same rfl rfl rfl
  | handle request rest queued =>
      refine ⟨rfl, ?_, ?_⟩
      · have waiting : server.queued = request :: rest := queued
        have left : ({ server with hub := { server.hub with
            state := server.hub.state.handle visit now request
            channel := { server.hub.channel with box :=
              { server.hub.channel.box with queue := rest } } } } : Server).queued = rest := rfl
        rw [Server.asked, left, waiting, List.drop_eq_nil_of_le (by simp)]
        rfl
      · refine ⟨(server.mail.box id).taken (addressed id
          (Exchange.tries visit now server.hub.state.exchange request)), ?_⟩
        simp only [mail, Service.handle_exchange, Mailroom.box_release, Exchange.apply_box]
        exact Mailbox.putAll_queue _ _
  | finish ended =>
      refine ⟨rfl, ?_, [], ?_⟩
      · have empty : ({ server with
            hub := server.hub.finish (Service.actor visit now) } : Server).queued = [] := rfl
        simp [Server.asked, empty]
      · rw [List.append_nil]
        have box : (({ server with
            hub := server.hub.finish (Service.actor visit now) } : Server).mail.box id) =
              server.hub.state.exchange.reset.mail.box id :=
          box_discard visit now ((Service.actor visit now).stop server.hub.state) server.queued id
        rw [box, Exchange.box_reset]
        rfl

theorem newSession_box {user room : String} {session : Session} {opened : Server}
    (created : server.newSession? user room = some (session, opened)) (apart : id ≠ session.id) :
    opened.mail.box id = server.mail.box id := by
  obtain ⟨mail, made, same⟩ := Option.map_eq_some_iff.mp created
  cases same
  obtain ⟨channel, _, rfl⟩ := Option.map_eq_some_iff.mp made
  simp [setMail, Server.mail, Mailroom.box, Mailroom.channel_setChannel_ne _ _ apart]

theorem mail_advanceConsole (server : Server) (next : Console) :
    (server.advanceConsole next).mail =
      if next.hasEnded then (server.mail.release next.session.id).close next.session.id
      else server.mail := by
  unfold advanceConsole
  split <;> rfl

theorem console?_advanceConsole (found : middle.console? id = some console)
    (same : next.session.id = id) (other : ClientId) :
    (middle.advanceConsole next).console? other =
      if id = other then some next else middle.console? other := by
  rw [console?, advanceConsole_consoles]
  exact console?_replaced found same other

theorem Affords.unmoved {other : ClientId} (affords : server.Affords id happening middle)
    (apart : other ≠ id) : Unmoved other server middle := by
  cases happening with
  | supplied supply => contradiction
  | sent command =>
      obtain ⟨_, queued, _, _, consoles⟩ := offer_ok affords
      refine ⟨congrArg (List.find? _) consoles, ?_, [], ?_⟩
      · rw [asked_of_offer queued, if_neg (Ne.symm apart)]
      · rw [offer_accepted affords, List.append_nil]
        exact congrArg Mailbox.queue (Mailroom.box_share _ _ _)
  | refused =>
      obtain ⟨_, rfl⟩ := affords
      exact unmoved_of_same rfl rfl rfl
  | worked | read =>
      cases affords
      exact unmoved_of_same rfl rfl rfl
  | took event =>
      obtain ⟨mail, received, rfl⟩ := affords
      refine unmoved_of_same rfl rfl ?_
      have kept : (server.mail.receive id).2.box other = server.mail.box other :=
        box_receive_ne apart
      rw [received] at kept
      exact kept

theorem Unmoved.advance {other : ClientId} (unmoved : Unmoved other server middle)
    (found : middle.console? id = some console) (same : next.session.id = id)
    (apart : other ≠ id) : Unmoved other server (middle.advanceConsole next) := by
  refine ⟨?_, ?_, ?_⟩
  · rw [console?_advanceConsole found same, if_neg (Ne.symm apart)]
    exact unmoved.console
  · rw [Server.asked, (advanceConsole_undisturbed middle next).queued]
    exact unmoved.asked
  · have box : (middle.advanceConsole next).mail.box other = middle.mail.box other := by
      rw [mail_advanceConsole, same]
      split
      · rw [box_close_ne apart, Mailroom.box_release]
      · rfl
    rw [box]
    exact unmoved.box

-- As long as a console has not ended, its session has an address and cannot be alone.
theorem Orderly.not_alone {mail : Mailroom} (orderly : server.Orderly)
    (found : server.console? id = some console) (running : console.outcome = none) :
    server.mail.receive id ≠ (.disconnected, mail) := by
  intro alone
  have held : server.holds id = true := by
    simp [orderly.holds_of_console found, Console.hasEnded, running]
  exact Nat.ne_of_gt (orderly.addresses_pos held) (receive_disconnected alone).2

/-- What is not about a console leaves it where it is. -/
theorem Passes.unmoved (passes : server.Passes label after) (orderly : server.Orderly)
    (found : server.console? id = some console) (elsewhere : atConsole id label = []) :
    Unmoved id server after := by
  have apart {seat : Seat} {other : ClientId} (seated : server.seat? other = some seat) :
      id ≠ other := by
    rintro rfl
    rw [orderly.no_console seated] at found
    contradiction
  have not_new {session : Session} (fresh : session.id = ⟨server.nextId⟩) : id ≠ session.id := by
    rintro rfl
    have known := orderly.console_known found
    rw [fresh] at known
    exact absurd known (Nat.lt_irrefl _)
  have not_here {other : ClientId} {happening : Happening}
      (label_elsewhere : atConsole id (some (other, happening)) = []) : id ≠ other := by
    rintro rfl
    simp at label_elsewhere
  cases passes with
  | stays | stop | enter => exact unmoved_of_same rfl rfl rfl
  | hub visit now _ turned =>
      obtain ⟨loop, loop_turned, rfl⟩ := Option.map_eq_some_iff.mp turned
      exact turn_unmoved (Loop.turns_of_turn? loop_turned) id
  | openSeat user room session opened created =>
      obtain ⟨fresh, _, queued, _⟩ := newSession?_some created
      have box : opened.mail.box id = _ := newSession_box created (not_new fresh)
      exact unmoved_of_same (newSession?_found created id).2 queued box
  | openConsole user room mode sink now session opened created =>
      obtain ⟨fresh, _, queued, _⟩ := newSession?_some created
      have before : opened.console? id = some console :=
        (newSession?_found created id).2.trans found
      have box : opened.mail.box id = _ := newSession_box created (not_new fresh)
      refine unmoved_of_same ?_ queued box
      rw [console?_append, before, found, Option.some_or]
  | offer other seat command _ seated held taken =>
      have affords : server.Affords other (.sent command) _ := taken
      exact affords.unmoved (apart seated)
  | poll other seat seated => exact unmoved_of_same rfl rfl (box_receive_ne (apart seated))
  | dropHandle other seat seated => exact unmoved_of_same rfl rfl (Mailroom.box_release _ _ _)
  | dropInbox other seat seated => exact unmoved_of_same rfl rfl (box_close_ne (apart seated))
  | attend other seat mode sink now seated =>
      refine unmoved_of_same ?_ rfl rfl
      have appended := console?_append
        { server with seats := server.seats.filter (·.session.id ≠ other) }
        (Console.create seat.session mode sink now) id
      have before : ({ server with
          seats := server.seats.filter (·.session.id ≠ other) } : Server).console? id =
            some console := found
      rw [appended, before, found, Option.some_or]
  | supply other there next supply found_there goes =>
      have self := goes.session_id.trans (console_listed found_there).1
      refine unmoved_of_same ?_ rfl rfl
      rw [console?_replaced found_there self, if_neg (Ne.symm (not_here elsewhere))]
  | console other there next happening middle found_there goes affords =>
      have self := goes.session_id.trans (console_listed found_there).1
      have still := (orderly.afforded found_there affords).2
      exact (affords.unmoved (not_here elsewhere)).advance still self (not_here elsewhere)
  | desert other there mail found_there ready alone =>
      exact absurd alone (orderly.not_alone found_there (Console.isReady_iff.mp ready).1)

/-- What a console takes is what its mailbox held first, and as long as it has not ended it loses
nothing else. -/
structure Drawn (id : ClientId) (before after : Server) (taken : List Event) (next : Console) :
    Prop where
  oldest : taken <+: (before.mail.box id).queue
  kept : next.hasEnded = false → (before.mail.box id).queue ++ delivered id before after =
    taken ++ (after.mail.box id).queue

theorem Unmoved.drawn (unmoved : Unmoved id server after) (next : Console) :
    Drawn id server after [] next := by
  obtain ⟨events, queue⟩ := unmoved.box
  refine ⟨List.nil_prefix, fun _ => ?_⟩
  rw [delivered, queue, List.drop_left, List.nil_append]

theorem Affords.asked (affords : server.Affords id happening middle) :
    asked id server middle = happening.sent?.toList := by
  cases happening with
  | supplied supply => contradiction
  | sent command =>
      rw [asked_of_offer (offer_ok affords).2.1, if_pos rfl]
      rfl
  | refused =>
      obtain ⟨_, rfl⟩ := affords
      exact asked_of_queued rfl
  | worked | read =>
      cases affords
      exact asked_of_queued rfl
  | took event =>
      obtain ⟨mail, received, rfl⟩ := affords
      exact asked_of_queued rfl

theorem Affords.drawn (affords : server.Affords id happening middle) (next : Console) :
    Drawn id server middle happening.took?.toList next := by
  have still (same : (middle.mail.box id).queue = (server.mail.box id).queue) :
      Drawn id server middle [] next :=
    ⟨List.nil_prefix, fun _ => by rw [delivered_of_queue same, same, List.append_nil,
      List.nil_append]⟩
  cases happening with
  | supplied supply => contradiction
  | sent command =>
      apply still
      rw [offer_accepted affords]
      exact congrArg Mailbox.queue (Mailroom.box_share _ _ _)
  | refused =>
      obtain ⟨_, rfl⟩ := affords
      exact still rfl
  | worked | read =>
      cases affords
      exact still rfl
  | took event =>
      obtain ⟨mail, received, rfl⟩ := affords
      obtain ⟨rest, queued, rfl⟩ := receive_message received
      have left : ((server.setMail (server.mail.setBox id
          { server.mail.box id with queue := rest })).mail.box id).queue = rest :=
        congrArg Mailbox.queue (Mailroom.box_setBox_self _ _ _)
      refine ⟨⟨rest, queued.symm⟩, fun _ => ?_⟩
      rw [delivered, left, queued, List.drop_eq_nil_of_le (by simp)]
      simp [Happening.took?]

theorem Drawn.advance {taken : List Event} (drawn : Drawn id server middle taken next) :
    Drawn id server (middle.advanceConsole next) taken next := by
  refine ⟨drawn.oldest, fun goes_on => ?_⟩
  have mail : (middle.advanceConsole next).mail = middle.mail := by
    rw [mail_advanceConsole, goes_on]
    rfl
  rw [delivered, mail]
  exact drawn.kept goes_on

structure Projects (id : ClientId) (console next : Console) (happenings : List Happening)
    (before after : Server) : Prop where
  reaches : console.Reaches happenings next
  found : after.console? id = some next
  sent : asked id before after = happenings.filterMap Happening.sent?
  drawn : Drawn id before after (happenings.filterMap Happening.took?) next
  refused : .refused ∈ happenings → before.hub.channel.box.isOpen = false

theorem closed_of_offer {sender : ClientId} {command : Command}
    (refused : server.offer sender command = .error .closed) :
    server.hub.channel.box.isOpen = false := by
  unfold offer at refused
  rcases server.hub.offer_cases ⟨sender, command⟩ with ⟨shut, -⟩ | ⟨-, -, room⟩ | ⟨-, -, full⟩
  · exact shut
  · rw [room] at refused
    contradiction
  · rw [full] at refused
    cases refused

theorem Passes.projects (passes : server.Passes label after) (orderly : server.Orderly)
    (found : server.console? id = some console) :
    ∃ next, Projects id console next (atConsole id label) server after := by
  by_cases elsewhere : atConsole id label = []
  · have unmoved := passes.unmoved orderly found elsewhere
    rw [elsewhere]
    exact ⟨console, .none console, unmoved.console.trans found, unmoved.asked,
      unmoved.drawn console, by simp⟩
  · cases passes with
    | supply owner there next supply found_there goes =>
        have here : owner = id := by
          by_contra apart
          exact elsewhere (atConsole_other _ apart)
        subst here
        cases found.symm.trans found_there
        have self := goes.session_id.trans (console_listed found).1
        rw [atConsole_self]
        refine ⟨next, .next goes (.none next), ?_, asked_of_queued rfl, ?_, by simp⟩
        · rw [console?_replaced found self, if_pos rfl]
        · refine ⟨List.nil_prefix, fun _ => ?_⟩
          have nothing : delivered owner server (server.setConsole next) = [] :=
            delivered_of_queue rfl
          rw [nothing, List.append_nil]
          rfl
    | console owner there next happening middle found_there goes affords =>
        have here : owner = id := by
          by_contra apart
          exact elsewhere (atConsole_other _ apart)
        subst here
        cases found.symm.trans found_there
        have self := goes.session_id.trans (console_listed found).1
        have still := (orderly.afforded found affords).2
        rw [atConsole_self]
        refine ⟨next, .next goes (.none next), ?_, ?_, ?_, ?_⟩
        · rw [console?_advanceConsole still self, if_pos rfl]
        · rw [Server.asked, (advanceConsole_undisturbed middle next).queued]
          refine affords.asked.trans ?_
          cases sent : happening.sent? <;> simp [sent]
        · have drawn := (affords.drawn next).advance
          cases took : happening.took? <;> simpa [took] using drawn
        · intro refused
          obtain rfl : .refused = happening := by simpa using refused
          obtain ⟨⟨command, closed⟩, _⟩ := affords
          exact closed_of_offer closed
    | stays | stop | hub | openSeat | openConsole | enter | offer | poll | dropHandle | dropInbox
    | attend | desert => exact absurd rfl elsewhere

theorem signal_advanceConsole (server : Server) (next : Console) :
    (server.advanceConsole next).hub.signal = server.hub.signal := by
  unfold advanceConsole
  split <;> rfl

theorem Affords.signal (affords : server.Affords id happening middle) :
    middle.hub.signal = server.hub.signal := by
  cases happening with
  | supplied supply => contradiction
  | sent command => rw [offer_accepted affords]
  | refused =>
      obtain ⟨_, rfl⟩ := affords
      rfl
  | worked | read =>
      cases affords
      rfl
  | took event =>
      obtain ⟨mail, _, rfl⟩ := affords
      rfl

-- Nothing but a stop changes whether the hub is told to stop, and no console can do that.
theorem Passes.signal (passes : server.Passes label after) :
    after.hub.signal = server.hub.signal ∨ (label = none ∧ after.hub.signal = .raised) := by
  cases passes with
  | stop => exact Or.inr ⟨rfl, rfl⟩
  | hub visit now _ turned =>
      obtain ⟨loop, loop_turned, rfl⟩ := Option.map_eq_some_iff.mp turned
      cases Loop.turns_of_turn? loop_turned <;> exact Or.inl rfl
  | openSeat _ _ _ _ created | openConsole _ _ _ _ _ _ _ created =>
      obtain ⟨mail, _, same⟩ := Option.map_eq_some_iff.mp created
      cases same
      exact Or.inl rfl
  | offer _ _ _ _ _ _ taken => exact Or.inl (by rw [offer_accepted taken])
  | console owner there next happening middle found goes affords =>
      exact Or.inl ((signal_advanceConsole middle next).trans affords.signal)
  | desert => exact Or.inl (signal_advanceConsole server _)
  | stays | enter | poll | dropHandle | dropInbox | attend | supply => exact Or.inl rfl

theorem Passes.armed (passes : server.Passes label after) (armed : after.hub.signal = .armed) :
    server.hub.signal = .armed := by
  rcases passes.signal with same | ⟨_, raised⟩
  · exact same.symm.trans armed
  · rw [armed] at raised
    contradiction

theorem Passes.still_armed {owner : ClientId}
    (passes : server.Passes (some (owner, happening)) after)
    (armed : server.hub.signal = .armed) : after.hub.signal = .armed := by
  rcases passes.signal with same | ⟨nowhere, _⟩
  · exact same.trans armed
  · contradiction

end Server

namespace Terminal.Console

variable {console next : Console} {happenings : List Happening}

theorem Reaches.sink (reaches : console.Reaches happenings next) :
    next.sink.Like console.sink := by
  induction reaches with
  | none => exact .refl _
  | next goes _ ih => exact goes.sink.trans ih

theorem Reaches.settled (settled : console.Settled) (reaches : console.Reaches happenings next) :
    next.Settled := by
  induction reaches with
  | none => exact settled
  | next goes _ ih => exact ih (goes.settled settled)

-- Nothing but input comes to a console that has ended, and it stays ended as it is.
theorem Reaches.of_ended (settled : console.Settled) (ended : console.hasEnded = true)
    (reaches : console.Reaches happenings next) :
    happenings.filterMap Happening.took? = [] ∧ happenings.filterMap Happening.sent? = [] ∧
      next.outcome = console.outcome := by
  induction reaches with
  | none => exact ⟨rfl, rfl, rfl⟩
  | next goes _ ih =>
      cases goes with
      | feed octets => exact ih settled ended
      | endInput => exact ih settled ended
      | send _ tasks first | refuse _ tasks first | enter _ tasks first
      | print _ _ tasks _ first | finish tasks _ first =>
          rw [settled ended] at first
          contradiction
      | read now _ ready | take event ready =>
          simp [isReady, ended] at ready

end Terminal.Console

namespace Venue

open Server Terminal

variable {venue : Venue} {id : ClientId} {console : Console}

theorem play_armed (deeds : List Deed) (armed : (venue.play deeds).server.hub.signal = .armed) :
    venue.server.hub.signal = .armed := by
  induction deeds generalizing venue with
  | nil => exact armed
  | cons deed rest ih =>
      obtain ⟨label, passes, _⟩ := perform_shows venue deed
      exact passes.armed (ih armed)

structure Unfolds (id : ClientId) (venue : Venue) (deeds : List Deed) (console next : Console)
    (happenings : List Happening) : Prop where
  reaches : console.Reaches happenings next
  found : (venue.play deeds).server.console? id = some next
  sent : gather (asked id) venue deeds = happenings.filterMap Happening.sent?
  took : gather (taken id) venue deeds = happenings.filterMap Happening.took?
  supplied : supplies id deeds = happenings.filterMap Happening.supply?
  accepted : (venue.play deeds).server.hub.signal = .armed → .refused ∉ happenings
  drawn : ∃ left, (venue.server.mail.box id).queue ++ gather (delivered id) venue deeds =
    gather (taken id) venue deeds ++ left ∧
      (next.hasEnded = false → left = ((venue.play deeds).server.mail.box id).queue)

theorem perform_projects (deed : Deed) (orderly : venue.server.Orderly)
    (found : venue.server.console? id = some console) :
    ∃ next happenings, Projects id console next happenings venue.server
        (venue.perform deed).server ∧
      taken id venue deed = happenings.filterMap Happening.took? ∧
      (deed.supply? id).toList = happenings.filterMap Happening.supply? := by
  obtain ⟨label, passes, takes, supplies⟩ := perform_shows venue deed
  obtain ⟨next, projects⟩ := passes.projects orderly found
  exact ⟨next, _, projects, takes id, supplies id console found⟩

theorem play_unfolds (deeds : List Deed) (orderly : venue.server.Orderly)
    (found : venue.server.console? id = some console) :
    ∃ next happenings, Unfolds id venue deeds console next happenings := by
  induction deeds generalizing venue console with
  | nil =>
      refine ⟨console, [], .none console, found, rfl, rfl, rfl, by simp, ?_⟩
      exact ⟨(venue.server.mail.box id).queue, by simp [gather], fun _ => rfl⟩
  | cons deed rest ih =>
      obtain ⟨middle, here, projects, takes, supplied⟩ := perform_projects deed orderly found
      obtain ⟨next, later, unfolds⟩ := ih (perform_orderly deed orderly) projects.found
      have settled := projects.reaches.settled
        (orderly.settled console (console_listed found).2)
      refine ⟨next, here ++ later, projects.reaches.trans unfolds.reaches, unfolds.found, ?_, ?_,
        ?_, ?_, ?_⟩
      · rw [gather, unfolds.sent, List.filterMap_append]
        exact congrArg (· ++ _) projects.sent
      · rw [gather, unfolds.took, List.filterMap_append, takes]
      · rw [List.filterMap_append, ← supplied, ← unfolds.supplied, supplies, supplies,
          List.filterMap_cons]
        cases deed.supply? id <;> rfl
      · intro armed listed
        rcases List.mem_append.mp listed with now | after
        · have serving := orderly.serving (play_armed (deed :: rest) armed)
          have shut := projects.refused now
          rw [serving.opened] at shut
          contradiction
        · exact unfolds.accepted armed after
      · obtain ⟨left, balance, at_end⟩ := unfolds.drawn
        cases goes_on : middle.hasEnded with
        | false =>
            refine ⟨left, ?_, at_end⟩
            have kept := projects.drawn.kept goes_on
            rw [gather, gather, ← List.append_assoc, takes]
            change (_ ++ Server.delivered id venue.server (venue.perform deed).server) ++ _ = _
            rw [kept, List.append_assoc, balance, List.append_assoc]
        -- From its end on the console takes nothing.
        | true =>
            obtain ⟨nothing, _, outcome⟩ := unfolds.reaches.of_ended settled goes_on
            obtain ⟨more, queue⟩ := projects.drawn.oldest
            refine ⟨more ++ gather (delivered id) venue (deed :: rest), ?_, ?_⟩
            · have all : gather (taken id) venue (deed :: rest) =
                  here.filterMap Happening.took? := by
                rw [gather, takes, unfolds.took, nothing, List.append_nil]
              rw [all, ← List.append_assoc, queue]
            · intro goes_on_still
              rw [Console.hasEnded, outcome] at goes_on_still
              rw [Console.hasEnded, goes_on_still] at goes_on
              contradiction

end Venue
end ChatRooms
