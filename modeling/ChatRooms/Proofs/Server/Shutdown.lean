import ChatRooms.Proofs.Server.Ledger
import ChatRooms.Proofs.Server.Schedule

/-! How a server stops. The hub goes on until it sees that it has been told to stop, and there is
one turn in which it does: what it had carried out by then is what was accepted first, what was
queued is lost without a trace, and from then on nobody hears of anything or gets anything done. -/
namespace ChatRooms

namespace Server

variable {server after : Server} {visit : Visit} {now : Timestamp}

/-- A hub is open for requests until it has finished, and then it has forgotten everything. -/
structure Staged (server : Server) : Prop where
  phase : server.hub.phase = .scheduled ∨ server.hub.phase = .running ∨
    server.hub.phase = .finished
  signal : server.hub.signal = .armed ∨ server.hub.signal = .raised
  opened : server.hub.channel.box.isOpen = true ↔ server.hub.phase ≠ .finished
  cleared : server.hub.phase = .finished →
    server.registry.reset = server.registry ∧ server.queued = []

theorem Staged.shut (staged : server.Staged) (finished : server.hub.phase = .finished) :
    server.hub.channel.box.isOpen = false := by
  apply Bool.eq_false_iff.mpr
  intro opened
  exact staged.opened.mp opened finished

theorem start_staged {config : Config} (started : start? config = some server) :
    server.Staged := by
  obtain ⟨-, rfl⟩ := start?_some started
  exact ⟨Or.inl rfl, Or.inl rfl, ⟨fun _ => nofun, fun _ => rfl⟩, nofun⟩

theorem Untouched.staged (untouched : Untouched server after) (staged : server.Staged) :
    after.Staged := by
  obtain ⟨requests, queued, kept⟩ := untouched.queued
  refine ⟨?_, ?_, ?_, fun finished => ?_⟩
  · rw [untouched.phase]
    exact staged.phase
  · rcases untouched.told with same | raised
    · rw [same]
      exact staged.signal
    · exact Or.inr raised
  · rw [untouched.opened, untouched.phase]
    exact staged.opened
  · rw [untouched.phase] at finished
    obtain ⟨cleared, empty⟩ := staged.cleared finished
    rw [untouched.registry, queued, empty, kept (staged.shut finished)]
    exact ⟨cleared, rfl⟩

theorem HubTurn.staged (turn : HubTurn visit now server after) (staged : server.Staged) :
    after.Staged := by
  cases turn with
  | waits => exact staged
  | start scheduled =>
      refine ⟨Or.inr (Or.inl rfl), staged.signal, ⟨fun _ => nofun, fun _ => ?_⟩, nofun⟩
      exact staged.opened.mpr (by rw [scheduled]; decide)
  | handle request rest running untold waiting =>
      refine ⟨staged.phase, staged.signal, staged.opened, fun finished => ?_⟩
      cases running.symm.trans finished
  | finish running ended =>
      have hub := Service.discard_hub visit now
        ((Service.actor visit now).stop server.hub.state) server.queued
      refine ⟨Or.inr (Or.inr rfl), staged.signal, ⟨nofun, fun goesOn => absurd rfl goesOn⟩,
        fun _ => ⟨?_, rfl⟩⟩
      have registry : ({ server with
          hub := server.hub.finish (Service.actor visit now) } : Server).registry =
            server.registry.reset := hub
      rw [registry]
      rfl

theorem HubTurn.ended (turn : HubTurn visit now server after)
    (still : server.hub.phase ≠ .finished) (finished : after.hub.phase = .finished) :
    server.hub.phase = .running ∧
      (server.hub.signal = .raised ∨ (server.hub.channel.addresses = 0 ∧ server.queued = [])) ∧
      after = { server with hub := server.hub.finish (Service.actor visit now) } := by
  cases turn with
  | waits => exact absurd finished still
  | start scheduled => cases finished
  | handle request rest running => exact absurd finished still
  | finish running ended => exact ⟨running, ended, rfl⟩

theorem HubTurn.silent (turn : HubTurn visit now server after)
    (finished : server.hub.phase = .finished) (id : ClientId) : server.delivered id after = [] := by
  cases turn with
  | waits => exact delivered_of_queue rfl
  | start scheduled => cases finished.symm.trans scheduled
  | handle request rest running => cases finished.symm.trans running
  | finish running => cases finished.symm.trans running

theorem offer_of_shut (shut : server.hub.channel.box.isOpen = false) (sender : ClientId)
    (command : Command) : server.offer sender command = .error .closed := by
  rcases server.hub.offer_cases ⟨sender, command⟩ with ⟨-, closed⟩ | ⟨opened, -⟩ | ⟨opened, -⟩
  · simp [offer, closed, Except.map]
  · cases opened.symm.trans shut
  · cases opened.symm.trans shut

def Asks (moves : List Move) : Prop :=
  ∃ early command, moves = early ++ [.send command]

theorem moves_ask (session : Session) (now : Timestamp) (wish : Wish) :
    Asks (session.moves now wish) := by
  cases wish with
  | switchRoom room =>
      exact ⟨[.send .disconnect, .enter room], .connect session.user room, rfl⟩
  | connect | disconnect | post | postTo | direct | listUsers => exact ⟨[], _, rfl⟩

theorem Asks.tail {first : Move} {rest : List Move} (asks : Asks (first :: rest))
    (more : rest ≠ []) : Asks rest := by
  obtain ⟨early, command, same⟩ := asks
  cases early with
  | nil => exact absurd (List.cons.inj same).2 more
  | cons other early => exact ⟨early, command, (List.cons.inj same).2⟩

theorem enterRoom_shut (id : ClientId) (room : String)
    (shut : server.hub.channel.box.isOpen = false) :
    (server.enterRoom id room).hub.channel.box.isOpen = false := by
  unfold enterRoom
  split
  · exact shut
  · exact shut

-- Up to the first request a call can do no more than note a room.
theorem carryOut_of_shut {moves : List Move} (asks : Asks moves) (id : ClientId)
    (shut : server.hub.channel.box.isOpen = false) :
    (server.carryOut visit now id moves).2 = .error .hubGone := by
  induction moves generalizing server with
  | nil =>
      obtain ⟨early, command, same⟩ := asks
      cases early <;> cases same
  | cons first rest ih =>
      cases first with
      | send command => simp only [carryOut, send, offer_of_shut shut]
      | enter room =>
          have more : rest ≠ [] := by
            rintro rfl
            obtain ⟨early, command, same⟩ := asks
            rcases List.singleton_eq_append_iff.mp same with ⟨-, last⟩ | ⟨-, last⟩ <;> cases last
          exact ih (asks.tail more) (enterRoom_shut id room shut)

theorem call_of_shut (session : Session) (wish : Wish)
    (shut : server.hub.channel.box.isOpen = false) :
    server.call visit now session wish = (server, .error .hubGone) := by
  have refused := offer_of_shut shut session.id
  cases wish with
  | connect | disconnect | post | postTo | direct | listUsers | switchRoom =>
      simp only [call, Session.moves, carryOut, send, refused]

theorem taskTurn?_of_shut {console : Terminal.Console} {command : Command}
    {tasks : List Terminal.Task} (first : console.tasks = .move (.send command) :: tasks)
    (shut : server.hub.channel.box.isOpen = false) :
    server.taskTurn? console = some (server.advanceConsole
      ({ console with tasks }.conclude (.error (.session .hubGone)))) := by
  simp only [taskTurn?, first, offer_of_shut shut]

structure CarriesOut (visit : Visit) (now : Timestamp) (request : Request)
    (before after : Server) : Prop where
  waiting : before.queued = request :: after.queued
  registry : after.registry =
    (before.hub.state.exchange.apply visit now request).1.hub
  boxes : ∀ id, after.mail.box id =
    (before.hub.state.exchange.apply visit now request).1.mail.box id

theorem CarriesOut.delivered {request : Request}
    (carries : CarriesOut visit now request server after) (id : ClientId) :
    server.delivered id after =
      Exchange.arrivals id server.hub.state.exchange (.ask visit now request) := by
  rw [Server.delivered, carries.boxes id]
  rfl

theorem HubTurn.effect (turn : HubTurn visit now server after) :
    (∃ request, server.applied = [request] ∧ CarriesOut visit now request server after) ∨
      (server.applied = [] ∧ (∀ id, server.delivered id after = []) ∧
        (after.registry = server.registry ∨ (server.hub.phase = .running ∧
          after.hub.phase = .finished ∧ after.registry = server.registry.reset))) := by
  cases turn with
  | waits nothing => exact Or.inr ⟨nothing, fun _ => delivered_of_queue rfl, Or.inl rfl⟩
  | start scheduled =>
      have nothing := (@idle_of_phase server (by rw [scheduled]; decide)).1
      exact Or.inr ⟨nothing, fun _ => delivered_of_queue rfl, Or.inl rfl⟩
  | handle request rest running untold waiting =>
      refine Or.inl ⟨request, ?_, waiting, Service.handle_hub visit now _ request,
        Service.handle_box visit now _ request⟩
      rw [applied_of_running running untold, waiting]
      rfl
  | finish running ended =>
      exact Or.inr ⟨applied_of_ended ended,
        fun id => delivered_of_queue (congrArg Mailbox.queue (finish_box visit now server id)),
        Or.inr ⟨running, rfl, Service.discard_hub visit now _ server.queued⟩⟩

/-! ## Until nobody can go on -/

theorem HubTurn.signal (turn : HubTurn visit now server after) :
    after.hub.signal = server.hub.signal := by
  cases turn <;> rfl

theorem turn?_hub_or_untouched {turn : Turn} (turned : server.turn? visit now turn = some after) :
    HubTurn visit now server after ∨ Untouched server after := by
  by_cases hub : turn = .hub
  · subst hub
    exact Or.inl (hubTurn_of_some turned)
  · exact Or.inr (turn?_aside hub turned).toUntouched

theorem Untouched.raised (untouched : Untouched server after)
    (raised : server.hub.signal = .raised) : after.hub.signal = .raised := by
  rcases untouched.told with same | told
  · exact same.trans raised
  · exact told

theorem Turned.staged (turned : Turned visit now server after) (staged : server.Staged) :
    after.Staged := by
  induction turned with
  | none => exact staged
  | next turn taken _ ih =>
      rcases turn?_hub_or_untouched taken with hub | untouched
      · exact ih (hub.staged staged)
      · exact ih (untouched.staged staged)

theorem Turned.raised (turned : Turned visit now server after)
    (raised : server.hub.signal = .raised) : after.hub.signal = .raised := by
  induction turned with
  | none => exact raised
  | next turn taken _ ih =>
      rcases turn?_hub_or_untouched taken with hub | untouched
      · exact ih (hub.signal.trans raised)
      · exact ih (untouched.raised raised)

theorem Turned.finished (turned : Turned visit now server after)
    (finished : server.hub.phase = .finished) : after.hub.phase = .finished := by
  induction turned with
  | none => exact finished
  | next turn taken _ ih =>
      rcases turn?_hub_or_untouched taken with hub | untouched
      · exact ih (hub.finished finished)
      · exact ih (untouched.phase.trans finished)

-- A hub that was told to stop and has to wait has stopped.
theorem finished_of_stuck (staged : server.Staged) (raised : server.hub.signal = .raised)
    (stuck : server.hub.turn? (Service.actor visit now) = none) :
    server.hub.phase = .finished := by
  rcases staged.phase with scheduled | running | finished
  · simp [Loop.turn?, scheduled] at stuck
  · rw [Loop.turn?_of_finish running (Or.inl raised)] at stuck
    contradiction
  · exact finished

theorem round_finished (staged : server.Staged) (raised : server.hub.signal = .raised) :
    (server.round visit now).hub.phase = .finished := by
  have hub : Turned visit now server (server.runHub visit now) := runHub_turned server
  have finished : (server.runHub visit now).hub.phase = .finished :=
    finished_of_stuck (hub.staged staged) (hub.raised raised) (Loop.settle_waits _ server.hub)
  exact (runConsoles_turned _ _).finished finished

theorem settle_finished (staged : server.Staged) (raised : server.hub.signal = .raised) :
    (server.settle visit now).hub.phase = .finished := by
  unfold settle rounds
  split
  · rename_i idle
    have stuck := (Bool.and_eq_true_iff.mp idle).1
    exact finished_of_stuck staged raised
      (Option.map_eq_none_iff.mp (Option.isNone_iff_eq_none.mp stuck))
  · exact (rounds_turned _ _).finished (round_finished staged raised)

end Server

namespace Venue

open Server

variable {venue start : Venue} {id : ClientId}

theorem perform_staged (deed : Deed) (staged : venue.server.Staged) :
    (venue.perform deed).server.Staged := by
  rcases hub_or_elsewhere deed with ⟨visit, now, rfl⟩ | elsewhere
  · exact (perform_hub visit now venue).staged staged
  · have away : Elsewhere _ venue.server _ := perform_elsewhere elsewhere
    exact away.toUntouched.staged staged

theorem play_staged (deeds : List Deed) (staged : venue.server.Staged) :
    (venue.play deeds).server.Staged := by
  induction deeds generalizing venue with
  | nil => exact staged
  | cons deed rest ih => exact ih (perform_staged deed staged)

/-- What the one turn is like in which the hub stops. -/
structure Cut (cut : Venue) (visit : Visit) (now : Timestamp) : Prop where
  running : cut.server.hub.phase = .running
  raised : cut.server.hub.signal = .raised
  finishes : (cut.perform (.act (.turn visit now .hub))).server =
    { cut.server with hub := cut.server.hub.finish (Service.actor visit now) }

theorem cut_of_finished {deeds : List Deed} (orderly : venue.server.Orderly)
    (staged : venue.server.Staged) (unfinished : venue.server.hub.phase ≠ .finished)
    (finished : (venue.play deeds).server.hub.phase = .finished) :
    ∃ before visit now after, deeds = before ++ .act (.turn visit now .hub) :: after ∧
      Cut (venue.play before) visit now := by
  obtain ⟨before, deed, after, rfl, still, turned⟩ :=
    turning_point (fun venue : Venue => venue.server.hub.phase = .finished) deeds unfinished
      finished
  change (venue.play before).server.hub.phase ≠ .finished at still
  change ((venue.play before).perform deed).server.hub.phase = .finished at turned
  rcases hub_or_elsewhere deed with ⟨visit, now, rfl⟩ | elsewhere
  · obtain ⟨running, ended, finishes⟩ := (perform_hub visit now _).ended still turned
    refine ⟨before, visit, now, after, rfl, running, ?_, finishes⟩
    -- The hub keeps an address of its own, so it is never left alone.
    rcases (play_staged before staged).signal with armed | raised
    · rcases ended with raised | ⟨alone, -⟩
      · exact raised
      · have serving := (play_orderly before orderly).serving armed
        exact absurd (Or.inr alone) (serving.goes_on armed)
    · exact raised
  · have away : Elsewhere _ (venue.play before).server _ := perform_elsewhere elsewhere
    exact absurd (away.phase.symm.trans turned) still

theorem Cut.delivers_nothing {cut : Venue} {visit : Visit} {now : Timestamp}
    (stops : Cut cut visit now) (id : ClientId) :
    delivered id cut (.act (.turn visit now .hub)) = [] := by
  apply delivered_of_queue
  rw [stops.finishes]
  exact congrArg Mailbox.queue (finish_box visit now cut.server id)

-- A hub that has finished has no turns, and nobody else delivers anything.
theorem silent_of_finished (finished : venue.server.hub.phase = .finished) (deed : Deed) :
    delivered id venue deed = [] := by
  rcases hub_or_elsewhere deed with ⟨visit, now, rfl⟩ | elsewhere
  · exact (perform_hub visit now venue).silent finished id
  · have away : Elsewhere _ venue.server _ := perform_elsewhere elsewhere
    exact away.delivered id

theorem gather_of_finished {β : Type} {observe : Venue → Deed → List β}
    (silent : ∀ venue deed, venue.server.hub.phase = .finished → observe venue deed = [])
    (finished : venue.server.hub.phase = .finished) (deeds : List Deed) :
    gather observe venue deeds = [] := by
  induction deeds generalizing venue with
  | nil => rfl
  | cons deed rest ih =>
      rw [gather, silent venue deed finished, ih (perform_finished finished deed)]
      rfl

/-! ## The calls in progress -/

def Pending : Activity → Prop
  | .shared calls => ∀ moves ∈ calls, Asks moves
  | .exclusive moves => moves = [] ∨ Asks moves

theorem Pending.call {activity : Activity} (pending : Pending activity) {index : Nat}
    (more : activity.call index ≠ []) : Asks (activity.call index) := by
  cases activity with
  | shared calls =>
      by_cases inside : index < calls.length
      · have same : Activity.call (.shared calls) index = calls[index] := by
          simp [Activity.call, inside]
        rw [same]
        exact pending _ (List.getElem_mem inside)
      · exact absurd (by simp [Activity.call, inside]) more
  | exclusive moves => exact pending.resolve_left more

theorem Pending.leave {activity : Activity} (pending : Pending activity) (index : Nat)
    {rest : List Move} (left : rest ≠ [] → Asks rest) : Pending (activity.leave index rest) := by
  cases activity with
  | exclusive moves =>
      by_cases done : rest = []
      · exact Or.inl done
      · exact Or.inr (left done)
  | shared calls =>
      cases rest with
      | nil => exact fun moves listed => pending moves (List.mem_of_mem_eraseIdx listed)
      | cons first rest =>
          intro moves listed
          rcases List.mem_or_eq_of_mem_set listed with before | rfl
          · exact pending moves before
          · exact left (List.cons_ne_nil _ _)

theorem Pending.begin {activity next : Activity} {moves : List Move} {wish : Wish}
    (pending : Pending activity) (asks : Asks moves)
    (begins : activity.begin? moves wish = some next) : Pending next := by
  have joined (calls : List (List Move)) (before : ∀ moves ∈ calls, Asks moves) :
      Pending (.shared (calls ++ [moves])) := by
    intro other listed
    rcases List.mem_append.mp listed with earlier | new
    · exact before other earlier
    · exact List.mem_singleton.mp new ▸ asks
  unfold Activity.begin? at begins
  split at begins
  · split at begins
    · cases begins
      exact Or.inr asks
    · contradiction
  · cases begins
    exact joined _ pending
  · cases begins
    exact joined [] (by simp)
  · contradiction

theorem pending_setActivity {activity : Activity} (pending : ∀ id, Pending (venue.activity id))
    (caller : ClientId) (changed : Pending activity) (id : ClientId) :
    Pending ((venue.setActivity caller activity).activity id) := by
  simp only [setActivity]
  split
  · exact changed
  · exact pending id

theorem pending_withSeat {caller : ClientId} {act : Seat → Venue}
    (pending : ∀ id, Pending (venue.activity id))
    (kept : ∀ seat id, Pending ((act seat).activity id)) (id : ClientId) :
    Pending ((venue.withSeat caller act).activity id) := by
  unfold withSeat
  split
  · exact pending id
  · exact kept _ id

theorem pending_openWith {opens : Option (Session × Server)}
    (pending : ∀ id, Pending (venue.activity id)) (id : ClientId) :
    Pending ((venue.openWith opens).activity id) := by
  cases opens with
  | none => exact pending id
  | some opened => exact pending_setActivity pending _ (by simp [Pending]) id

theorem pending_proceed (pending : ∀ id, Pending (venue.activity id)) (caller : ClientId)
    (index : Nat) (id : ClientId) : Pending ((venue.proceed caller index).activity id) := by
  refine pending_withSeat pending (fun seat id => ?_) id
  dsimp only
  split
  · exact pending id
  · rename_i room rest call
    have asks : Asks (_ :: rest) := call ▸ (pending caller).call (by rw [call]; simp)
    exact pending_setActivity pending caller ((pending caller).leave index asks.tail) id
  · rename_i command rest call
    have asks : Asks (_ :: rest) := call ▸ (pending caller).call (by rw [call]; simp)
    split
    · exact pending_setActivity pending caller ((pending caller).leave index asks.tail) id
    · exact pending id
    · exact pending_setActivity pending caller
        ((pending caller).leave index fun more => absurd rfl more) id

theorem perform_pending (pending : ∀ id, Pending (venue.activity id)) (deed : Deed)
    (id : ClientId) : Pending ((venue.perform deed).activity id) := by
  cases deed with
  | attend =>
      rw [perform]
      split
      · exact pending id
      · exact pending id
  | act act =>
      cases act with
      | openSession | openSessionIn | openConsole => exact pending_openWith pending id
      | begin caller now wish =>
          refine pending_withSeat pending (fun seat id => ?_) id
          split
          · exact pending id
          · rename_i begins
            exact pending_setActivity pending caller
              ((pending caller).begin (moves_ask seat.session now wish) begins) id
      | proceed caller index => exact pending_proceed pending caller index id
      | abandon caller index =>
          refine pending_withSeat pending (fun seat id => ?_) id
          exact pending_setActivity pending caller
            ((pending caller).leave index fun more => absurd rfl more) id
      | dropHandle owner =>
          refine pending_withSeat pending (fun seat id => ?_) id
          exact pending_setActivity pending owner (by simp [Pending]) id
      | poll owner =>
          rw [perform]
          split
          · exact pending id
          · exact pending id
      | turn | dropInbox | feed | endInput | stop => exact pending id

theorem play_pending (pending : ∀ id, Pending (venue.activity id)) (deeds : List Deed)
    (id : ClientId) : Pending ((venue.play deeds).activity id) := by
  induction deeds generalizing venue with
  | nil => exact pending id
  | cons deed rest ih => exact ih (perform_pending pending deed)

/-! ## The cut -/

/-- What has an effect: a request that is carried out; and the end of the hub, which empties it. -/
theorem perform_effect (venue : Venue) (deed : Deed) :
    (∃ visit now request, deed = .act (.turn visit now .hub) ∧ applied venue deed = [request] ∧
      CarriesOut visit now request venue.server (venue.perform deed).server) ∨
    (applied venue deed = [] ∧ (∀ id, delivered id venue deed = []) ∧
      ((venue.perform deed).server.registry = venue.server.registry ∨
        (venue.server.hub.phase = .running ∧
          (venue.perform deed).server.hub.phase = .finished ∧
          (venue.perform deed).server.registry = venue.server.registry.reset))) := by
  rcases hub_or_elsewhere deed with ⟨visit, now, rfl⟩ | elsewhere
  · rcases (perform_hub visit now venue).effect with ⟨request, done, carries⟩ | nothing
    · exact Or.inl ⟨visit, now, request, rfl, done, carries⟩
    · exact Or.inr nothing
  · have away : Elsewhere _ venue.server _ := perform_elsewhere elsewhere
    exact Or.inr ⟨(applied_elsewhere elsewhere).1, away.delivered, Or.inl away.registry⟩

/-- Whoever asks for something learns that the hub is gone: one who calls now, on any session and on
one that is opened now; one whose call was in progress; and a console that was about to ask. -/
structure Refusing (venue : Venue) : Prop where
  calls : ∀ visit now session wish,
    venue.server.call visit now session wish = (venue.server, .error .hubGone)
  newcomers : ∀ user room session opened,
    venue.server.openSessionIn? user room = some (session, opened) →
      ∀ visit now wish, opened.call visit now session wish = (opened, .error .hubGone)
  waiting : ∀ caller index, (venue.activity caller).call index ≠ [] → ∀ visit now,
    (venue.server.carryOut visit now caller ((venue.activity caller).call index)).2 =
      .error .hubGone
  consoles : ∀ console ∈ venue.server.consoles, ∀ command tasks,
    console.tasks = .move (.send command) :: tasks →
      venue.server.taskTurn? console = some (venue.server.advanceConsole
        ({ console with tasks }.conclude (.error (.session .hubGone))))

theorem refusing_of_finished (staged : venue.server.Staged)
    (pending : ∀ id, Pending (venue.activity id))
    (finished : venue.server.hub.phase = .finished) : venue.Refusing where
  calls visit now session wish := call_of_shut session wish (staged.shut finished)
  newcomers user room session opened opens visit now wish := by
    have away := openSessionIn?_elsewhere opens
    exact call_of_shut session wish (away.opened.trans (staged.shut finished))
  waiting caller index more visit now :=
    carryOut_of_shut ((pending caller).call more) caller (staged.shut finished)
  consoles console listed command tasks first := taskTurn?_of_shut first (staged.shut finished)

theorem start_staged {config : Config} (started : start? config = some start) :
    start.server.Staged ∧ start.server.hub.phase = .scheduled ∧ start.server.queued = [] ∧
      start.activity = fun _ => .shared [] := by
  obtain ⟨opens, rfl⟩ := start?_some started
  exact ⟨Server.start_staged opens, rfl, rfl, rfl⟩

-- As long as the hub goes on, what it accepted is carried out or still queued.
theorem accepted_of_going {config : Config} (started : start? config = some start)
    (deeds : List Deed) (goesOn : (start.play deeds).server.hub.phase ≠ .finished) :
    gather accepted start deeds =
      gather applied start deeds ++ (start.play deeds).server.queued := by
  obtain ⟨-, -, empty, -⟩ := start_staged started
  have opening : Booked [] [] [] start.server := ⟨by rw [empty]; rfl, fun _ => rfl⟩
  have booked := play_booked deeds opening
  rw [List.nil_append, List.nil_append, List.nil_append] at booked
  rw [booked.whole, booked.going goesOn, List.append_nil]

theorem Cut.lost_all {cut : Venue} {visit : Visit} {now : Timestamp} (stops : Cut cut visit now) :
    lost cut (.act (.turn visit now .hub)) = cut.server.queued :=
  lost_of_told stops.running stops.raised

theorem Cut.applies_nothing {cut : Venue} {visit : Visit} {now : Timestamp}
    (stops : Cut cut visit now) : applied cut (.act (.turn visit now .hub)) = [] :=
  applied_of_ended (Or.inl stops.raised)

theorem Cut.finished {cut : Venue} {visit : Visit} {now : Timestamp} (stops : Cut cut visit now) :
    (cut.perform (.act (.turn visit now .hub))).server.hub.phase = .finished := by
  rw [stops.finishes]
  rfl

section Cut

variable {cut : Venue} {visit : Visit} {now : Timestamp}

theorem Cut.applied_before (stops : Cut cut visit now) {start : Venue} {before : List Deed}
    (after : List Deed) (reached : start.play before = cut) :
    gather applied start (before ++ .act (.turn visit now .hub) :: after) =
      gather applied start before := by
  have idle : gather applied (cut.perform (.act (.turn visit now .hub))) after = [] :=
    gather_of_finished (fun _ deed finished =>
      (idle_of_not_running (by rw [finished]; decide) deed).1) stops.finished after
  rw [gather_append, reached, gather, stops.applies_nothing, idle, List.append_nil]
  exact List.append_nil _

theorem Cut.accounted (stops : Cut cut visit now) {start : Venue} {before : List Deed}
    (after : List Deed) (reached : start.play before = cut) (opening : Booked [] [] [] start.server)
    (none_left : (start.play (before ++ .act (.turn visit now .hub) :: after)).server.queued = []) :
    let deeds := before ++ .act (.turn visit now .hub) :: after
    gather accepted start deeds = gather applied start deeds ++ cut.server.queued := by
  intro deeds
  have idle : gather lost (cut.perform (.act (.turn visit now .hub))) after = [] :=
    gather_of_finished (fun _ deed finished =>
      (idle_of_not_running (by rw [finished]; decide) deed).2) stops.finished after
  have early := play_booked before opening
  have kept : gather lost start before = [] := by
    have nothing := early.going (by rw [reached, stops.running]; decide)
    exact nothing
  have gone : gather lost start deeds = cut.server.queued := by
    rw [gather_append, reached, gather, stops.lost_all, idle, kept, List.append_nil]
    rfl
  have booked := (play_booked deeds opening).whole
  rw [gone, none_left, List.append_nil] at booked
  exact booked

theorem Cut.silent (stops : Cut cut visit now) (after : List Deed) :
    gather (delivered id) cut (.act (.turn visit now .hub) :: after) = [] := by
  rw [gather, stops.delivers_nothing, gather_of_finished
    (fun _ deed finished => silent_of_finished finished deed) stops.finished]
  rfl

theorem Cut.readable (stops : Cut cut visit now) (after : List Deed)
    (known : id.number < cut.server.nextId) :
    let rest := Deed.act (.turn visit now .hub) :: after
    ((cut.play rest).server.mail.box id).isOpen = true → (cut.server.mail.box id).queue =
      gather (received id) cut rest ++ ((cut.play rest).server.mail.box id).queue := by
  intro rest opened
  have stocked : Stocked id (cut.server.mail.box id).queue [] cut.server :=
    ⟨fun _ => rfl, fun fresh => absurd known (Nat.not_lt_of_le fresh)⟩
  have later := (play_stocked rest stocked).kept opened
  rw [stops.silent after, List.append_nil, List.nil_append] at later
  exact later

end Cut

theorem hub_stops (staged : venue.server.Staged) (raised : venue.server.hub.signal = .raised)
    (visit : Visit) (now : Timestamp) :
    let next := (venue.perform (.act (.turn visit now .hub))).server
    next.hub.phase = .finished ∨
      (venue.server.hub.phase = .scheduled ∧ next.hub.phase = .running) := by
  intro next
  have performs : next = (venue.server.hubTurn? visit now).getD venue.server := rfl
  rcases staged.phase with scheduled | running | finished
  · right
    rw [performs, hubTurn?, Loop.turn?, scheduled]
    exact ⟨rfl, rfl⟩
  · left
    rw [performs, hubTurn?, Loop.turn?_of_finish running (Or.inl raised)]
    rfl
  · exact Or.inl (perform_finished finished _)

theorem play_of_turned {server after : Server} {visit : Visit} {now : Timestamp}
    (activity : ClientId → Activity) (turned : Turned visit now server after) :
    ∃ turns : List Turn, (⟨server, activity⟩ : Venue).play
      (turns.map fun turn => .act (.turn visit now turn)) = ⟨after, activity⟩ := by
  induction turned with
  | none => exact ⟨[], rfl⟩
  | next turn taken _ ih =>
      obtain ⟨turns, reached⟩ := ih
      refine ⟨turn :: turns, ?_⟩
      rw [List.map_cons, play_cons]
      have stepped (before : Server) : (⟨before, activity⟩ : Venue).perform
          (.act (.turn visit now turn)) =
            ⟨(before.turn? visit now turn).getD before, activity⟩ := rfl
      rw [stepped, taken]
      exact reached

/-- How a hub stops, in any run. It carries out the requests in the order in which it accepted them,
each once and as a whole, and nothing else has an effect. There is one turn in which it stops, with
what was carried out by then; what was queued is lost, nobody is told of a departure, the registry
and the history are empty, no mailbox has an event put in any more and what is in them is received
in order; and whoever asks for something is refused. Shutting down ends in this state, at any time
and whatever the others do. -/
theorem stops_at_one_cut (config : Config) (start : Venue) (deeds : List Deed)
    (started : start? config = some start) :
    let venue := start.play deeds
    (∀ deed,
      (∃ visit now request, deed = .act (.turn visit now .hub) ∧ applied venue deed = [request] ∧
        CarriesOut visit now request venue.server (venue.perform deed).server) ∨
      (applied venue deed = [] ∧ (∀ id, delivered id venue deed = []) ∧
        ((venue.perform deed).server.registry = venue.server.registry ∨
          (venue.server.hub.phase = .running ∧
            (venue.perform deed).server.hub.phase = .finished ∧
            (venue.perform deed).server.registry = venue.server.registry.reset)))) ∧
    (venue.server.hub.phase ≠ .finished →
      gather accepted start deeds = gather applied start deeds ++ venue.server.queued) ∧
    (venue.server.hub.phase = .finished → ∃ before visit now after,
      deeds = before ++ .act (.turn visit now .hub) :: after ∧
      let cut := start.play before
      let rest := Deed.act (.turn visit now .hub) :: after
      Cut cut visit now ∧
      gather applied start deeds = gather applied start before ∧
      gather accepted start deeds = gather applied start deeds ++ cut.server.queued ∧
      venue.server.registry.members = [] ∧ venue.server.registry.history.rooms = [] ∧
      ∀ id, gather (delivered id) cut rest = [] ∧
        (id.number < cut.server.nextId → (venue.server.mail.box id).isOpen = true →
          (cut.server.mail.box id).queue =
            gather (received id) cut rest ++ (venue.server.mail.box id).queue)) ∧
    (venue.server.hub.phase = .finished → venue.Refusing) ∧
    (venue.server.hub.signal = .raised → ∀ visit now,
      let next := (venue.perform (.act (.turn visit now .hub))).server
      next.hub.phase = .finished ∨
        (venue.server.hub.phase = .scheduled ∧ next.hub.phase = .running)) ∧
    ∀ visit now, (venue.server.shutDown visit now).hub.phase = .finished ∧
      ∃ turns : List Turn, (venue.play (.act .stop :: turns.map fun turn =>
        .act (.turn visit now turn))).server = venue.server.shutDown visit now := by
  intro venue
  obtain ⟨staged, scheduled, empty, idle⟩ := start_staged started
  have kept : venue.server.Staged := play_staged deeds staged
  have opening : Booked [] [] [] start.server := ⟨by rw [empty]; rfl, fun _ => rfl⟩
  refine ⟨perform_effect venue, fun goesOn => ?_, fun finished => ?_, fun finished => ?_,
    fun raised visit now => ?_, fun visit now => ⟨?_, ?_⟩⟩
  · exact accepted_of_going started deeds goesOn
  · have unfinished : start.server.hub.phase ≠ .finished := by rw [scheduled]; decide
    obtain ⟨before, visit, now, after, rfl, stops⟩ :=
      cut_of_finished (start_orderly started) staged unfinished finished
    obtain ⟨cleared, none_left⟩ := kept.cleared finished
    refine ⟨before, visit, now, after, rfl, stops, stops.applied_before after rfl,
      stops.accounted after rfl opening none_left, (congrArg Hub.members cleared).symm,
      (congrArg (·.history.rooms) cleared).symm, fun id => ⟨stops.silent after, ?_⟩⟩
    intro known opened
    have whole : venue = (start.play before).play (.act (.turn visit now .hub) :: after) :=
      play_append start before _
    rw [whole] at opened ⊢
    exact stops.readable after known opened
  · refine refusing_of_finished kept (play_pending (fun id => ?_) deeds) finished
    rw [idle]
    simp [Pending]
  · exact hub_stops kept raised visit now
  · exact settle_finished ((aside_stop venue.server).staged kept) rfl
  · obtain ⟨turns, reached⟩ := play_of_turned venue.activity (settle_turned
      { venue.server with hub := venue.server.hub.raiseStop })
    exact ⟨turns, congrArg Venue.server reached⟩

-- Two requests are queued and a third one waits for room when the hub is told to stop.
theorem stops_at_one_cut_of_full_mailbox :
    let now : Timestamp := ⟨0, 0, by decide, by decide, by decide⟩
    let config : Config := ⟨"general", 20, 2, 64⟩
    let bob : ClientId := ⟨2⟩
    let ann : ClientId := ⟨3⟩
    let hub : Deed := .act (.turn .enrolled now .hub)
    let start : Venue :=
      ⟨⟨config, ⟨Service.create config, ⟨⟨2, [], true⟩, 1⟩, .scheduled, .armed⟩, [], [], 2⟩,
        fun _ => .shared []⟩
    let deeds : List Deed :=
      [.act (.openSession "bob" ""), .act (.openSession "ann" ""), .act (.begin bob now .connect),
        .act (.proceed bob 0), hub, hub, .act (.begin ann now .connect), .act (.proceed ann 0), hub,
        .act (.begin bob now (.post "hi")), .act (.proceed bob 0),
        .act (.begin ann now .disconnect), .act (.proceed ann 0), .act (.begin bob now .listUsers),
        .act (.proceed bob 0), .act .stop, hub, .act (.poll bob)]
    start? config = some start ∧ (start.play deeds).server.hub.phase = .finished ∧
      (∃ before visit time after, deeds = before ++ .act (.turn visit time .hub) :: after ∧
        (start.play before).server.queued =
          [⟨bob, .post "bob" "hi" ""⟩, ⟨ann, .disconnect⟩]) ∧
      (start.play deeds).server.call .enrolled now ⟨ann, "ann", "general"⟩ .connect =
        ((start.play deeds).server, .error .hubGone) ∧
      ((start.play deeds).server.carryOut .enrolled now bob [.send (.listUsers "general")]).2 =
        .error .hubGone := by
  intro now config bob ann hub start deeds
  have finished : (start.play deeds).server.hub.phase = .finished := by decide +kernel
  obtain ⟨-, -, atEnd, refusing, -, -⟩ := stops_at_one_cut config start deeds rfl
  have refuses := refusing finished
  refine ⟨rfl, finished, ?_, ?_, ?_⟩
  · obtain ⟨before, visit, time, after, same, -, -, whole, -⟩ := atEnd finished
    refine ⟨before, visit, time, after, same, ?_⟩
    have taken : gather accepted start deeds = gather applied start deeds ++
        [⟨bob, .post "bob" "hi" ""⟩, ⟨ann, .disconnect⟩] := by decide +kernel
    exact List.append_cancel_left (whole.symm.trans taken)
  · exact refuses.calls .enrolled now ⟨ann, "ann", "general"⟩ .connect
  · have call : ((start.play deeds).activity bob).call 0 = [.send (.listUsers "general")] := by
      decide +kernel
    have waiting := refuses.waiting bob 0 (by rw [call]; simp) .enrolled now
    rw [call] at waiting
    exact waiting

end Venue
end ChatRooms
