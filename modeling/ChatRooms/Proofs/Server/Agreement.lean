import ChatRooms.Proofs.Server.Consistency

/-! A session and the hub agree on the session's name and room whenever no request of the session is
waiting, in every run of a server, whatever the sessions do and however often they are abandoned in
the middle of a call. -/
namespace ChatRooms.Venue

variable {config : Config} {venue next : Venue} {id : ClientId} {seat : Seat}
  {console : Terminal.Console}

theorem begin_consistent (caller : ClientId) (now : Timestamp) (wish : Wish)
    (consistent : Consistent config venue) :
    Consistent config (venue.begin caller now wish) := by
  apply consistent_of_withSeat consistent
  intro seat found
  have accords := accords_of_seat consistent found
  split
  · exact consistent
  · rename_i activity begins
    exact consistent_of_activity consistent found rfl rfl
      ((Server.Undisturbed.refl _).spares caller)
      ⟨accords.foretold, proper_of_begin accords.proper begins⟩

theorem proceed_consistent (caller : ClientId) (index : Nat)
    (consistent : Consistent config venue) :
    Consistent config (venue.proceed caller index) := by
  apply consistent_of_withSeat consistent
  intro seat found
  have accords := accords_of_seat consistent found
  obtain ⟨self, _, _⟩ := seat_found found
  dsimp only
  cases call : (venue.activity caller).call index with
  | nil => exact consistent
  | cons first rest =>
      cases first with
      | enter room =>
          let changed := { seat with session := seat.session.enter room }
          have entered : venue.server.enterRoom caller room = venue.server.setSeat changed := by
            rw [Server.enterRoom, found]
          have undisturbed := venue.server.setSeat_undisturbed changed
          dsimp only
          rw [entered]
          refine consistent_of_seat changed consistent found self rfl rfl ?_
            (undisturbed.spares caller) ?_
          · intro other apart
            simp [setActivity, apart]
          · have own := accords.entered index call undisturbed.registry undisturbed.queued
            simpa [setActivity] using own
      | send command =>
          dsimp only
          split
          · rename_i accepted taken
            obtain ⟨registry, queued, _, seats, consoles⟩ := Server.offer_ok taken
            exact consistent_of_activity consistent found seats consoles (spares_of_offer taken)
              (accords.sent consistent.defaultRoom index call registry (self ▸ queued))
          · exact consistent
          · exact consistent_of_activity consistent found rfl rfl
              ((Server.Undisturbed.refl _).spares caller) (accords.finish index)

theorem abandon_consistent (caller : ClientId) (index : Nat)
    (consistent : Consistent config venue) :
    Consistent config (venue.abandon caller index) := by
  apply consistent_of_withSeat consistent
  intro seat found
  exact consistent_of_activity consistent found rfl rfl
    ((Server.Undisturbed.refl _).spares caller)
    ((accords_of_seat consistent found).finish index)

theorem dropInbox_consistent (owner : ClientId) (consistent : Consistent config venue) :
    Consistent config { venue with server := venue.server.dropInbox owner } := by
  unfold Server.dropInbox
  split
  · rename_i seat filtered
    obtain ⟨found, _⟩ := Option.filter_eq_some_iff.mp filtered
    let changed := { seat with hasInbox := false }
    have undisturbed := (venue.server.setSeat_undisturbed changed).trans
      (Server.setMail_undisturbed _ (venue.server.mail.close owner))
    exact consistent_of_seat changed consistent found (seat_found found).1 rfl rfl (fun _ _ => rfl)
      (undisturbed.spares owner) ((accords_of_seat consistent found).undisturbed undisturbed)
  · exact consistent

theorem dropHandle_consistent (owner : ClientId) (consistent : Consistent config venue) :
    Consistent config (venue.dropHandle owner) := by
  apply consistent_of_withSeat consistent
  intro seat found
  obtain ⟨self, _, _⟩ := seat_found found
  have accords := accords_of_seat consistent found
  have idle : Proper seat.session
      (Foretold (fun _ => false) venue.server.registry venue.server.queued seat.session.id)
      (.shared []) := by
    intro call listed
    contradiction
  unfold Server.dropHandle
  split
  · rename_i held filtered
    obtain ⟨again, _⟩ := Option.filter_eq_some_iff.mp filtered
    -- The server looks the seat up again, and finds the same one.
    cases found.symm.trans again
    let changed := { seat with hasHandle := false }
    have undisturbed := (venue.server.setSeat_undisturbed changed).trans
      (Server.setMail_undisturbed _ (venue.server.mail.release owner))
    refine consistent_of_seat changed consistent found self rfl rfl ?_
      (undisturbed.spares owner) ?_
    · intro other apart
      simp [setActivity, apart]
    · have own := Accords.undisturbed undisturbed ⟨accords.foretold, idle⟩
      simpa [setActivity] using own
  · exact consistent_of_activity consistent found rfl rfl
      ((Server.Undisturbed.refl _).spares owner) ⟨accords.foretold, idle⟩

-- A console that goes on, perhaps to its end.
theorem advanceConsole_consistent {server : Server} (changed : Terminal.Console)
    (consistent : Consistent config venue) (found : venue.server.console? id = some console)
    (same : changed.session.id = id) (seats : server.seats = venue.server.seats)
    (consoles : server.consoles = venue.server.consoles)
    (spares : Spares venue.server server id)
    (own : Accords config server changed.session (.exclusive changed.moves)) :
    Consistent config { venue with server := server.advanceConsole changed } := by
  have undisturbed := server.advanceConsole_undisturbed changed
  refine consistent_of_console changed consistent found same ?_ ?_ rfl ?_
    (own.undisturbed undisturbed)
  · exact (server.advanceConsole_seats changed).trans seats
  · simp [Server.setConsole, consoles]
  · have later := undisturbed.spares id
    exact ⟨later.defaultRoom.trans spares.defaultRoom, later.nextId.trans spares.nextId,
      fun fits other apart foretold =>
        later.foretold fits other apart (spares.foretold fits other apart foretold)⟩

theorem advanceConsole_consistent_of_own {server : Server} (changed : Terminal.Console)
    (consistent : Consistent config venue) (found : venue.server.console? id = some console)
    (undisturbed : Server.Undisturbed venue.server server)
    (seats : server.seats = venue.server.seats)
    (consoles : server.consoles = venue.server.consoles)
    (same : changed.session = console.session)
    (underway : ∀ absent, Underway console.session absent console.moves →
      Underway console.session absent changed.moves) :
    Consistent config { venue with server := server.advanceConsole changed } := by
  obtain ⟨self, _, _⟩ := console_found found
  have accords := accords_of_console consistent found
  have own : Accords config venue.server console.session (.exclusive changed.moves) :=
    ⟨accords.foretold, underway _ accords.proper⟩
  exact advanceConsole_consistent changed consistent found (same ▸ self) seats consoles
    (undisturbed.spares id) (same ▸ own.undisturbed undisturbed)

theorem taskTurn_consistent {server : Server} (consistent : Consistent config venue)
    (found : venue.server.console? id = some console)
    (turned : venue.server.taskTurn? console = some server) :
    Consistent config { venue with server } := by
  obtain ⟨self, _, _⟩ := console_found found
  have refl := Server.Undisturbed.refl venue.server
  have accords := accords_of_console consistent found
  unfold Server.taskTurn? at turned
  split at turned
  · contradiction
  · rename_i task tasks listed
    let next := { console with tasks }
    have moves : console.moves = task.move?.toList ++ next.moves := by
      simp only [Terminal.Console.moves, listed, next, List.filterMap_cons]
      cases task.move? <;> rfl
    have ended (outcome : Except Terminal.ConsoleError Unit) : Consistent config
        { venue with server := venue.server.advanceConsole (next.conclude outcome) } :=
      advanceConsole_consistent_of_own _ consistent found refl rfl rfl rfl
        fun _ _ => .finished
    have printed {text : String} {after : Terminal.Console} (silent : task.move? = none)
        (emits : next.Emits text after) : Consistent config
          { venue with server := venue.server.advanceConsole after } := by
      refine advanceConsole_consistent_of_own _ consistent found refl rfl rfl emits.session ?_
      intro absent underway
      rcases Terminal.emits_moves emits with unchanged | nothing
      · rw [unchanged]
        simpa [moves, silent] using underway
      · rw [nothing]
        exact .finished
    cases task with
    | write text =>
        cases turned
        exact printed rfl (Terminal.Console.write_emits next text)
    | endLine | prompt =>
        cases turned
        exact printed rfl (Terminal.Console.put_emits next _)
    | finish =>
        cases turned
        exact ended _
    | move move =>
        cases move with
        | enter room =>
            cases turned
            have own : Accords config venue.server (next.enter room).session
                (.exclusive next.moves) := accords.entered 0 moves rfl rfl
            exact advanceConsole_consistent (next.enter room) consistent found self rfl rfl
              (refl.spares id) own
        | send command =>
            simp only at turned
            split at turned
            · rename_i accepted taken
              cases turned
              obtain ⟨registry, queued, _, seats, consoles⟩ := Server.offer_ok taken
              rw [self] at taken
              exact advanceConsole_consistent next consistent found self seats consoles
                (spares_of_offer taken)
                (accords.sent consistent.defaultRoom 0 moves registry queued)
            · contradiction
            · cases turned
              exact ended _

theorem turn_consistent {visit : Visit} {now : Timestamp} {server : Server}
    (turn : Turn) (consistent : Consistent config venue)
    (turned : venue.server.turn? visit now turn = some server) :
    Consistent config { venue with server } := by
  have refl := Server.Undisturbed.refl venue.server
  cases turn with
  | hub =>
      obtain ⟨loop, hub_turned, rfl⟩ := Option.map_eq_some_iff.mp turned
      have defaultRoom : loop.state.exchange.hub.defaultRoom =
          venue.server.registry.defaultRoom := by
        rcases Loop.turn?_hub hub_turned with ⟨hub, _⟩ | ⟨request, rest, _, _, hub⟩ | ⟨hub, _⟩
        · rw [hub]
          rfl
        · rw [hub, Exchange.apply_defaultRoom]
          rfl
        · rw [hub]
          rfl
      exact consistent_of_none consistent rfl defaultRoom rfl
        fun fits other foretold => foretold.turn hub_turned
  | task id =>
      obtain ⟨console, found, task_turned⟩ := Option.bind_eq_some_iff.mp turned
      exact taskTurn_consistent consistent found task_turned
  | line id =>
      obtain ⟨console, idle, line_turned⟩ := Option.bind_eq_some_iff.mp turned
      obtain ⟨found, _⟩ := Option.filter_eq_some_iff.mp idle
      obtain ⟨read, reads, rfl⟩ := Option.map_eq_some_iff.mp line_turned
      obtain ⟨same, underway⟩ := Terminal.readLine?_underway reads
      exact advanceConsole_consistent_of_own read consistent found refl rfl rfl same
        fun absent _ => underway absent
  | event id =>
      obtain ⟨console, idle, event_turned⟩ := Option.bind_eq_some_iff.mp turned
      obtain ⟨found, _⟩ := Option.filter_eq_some_iff.mp idle
      unfold Server.eventTurn? at event_turned
      split at event_turned
      · rename_i event mail _
        cases event_turned
        refine advanceConsole_consistent_of_own (console.take event) consistent found
          (venue.server.setMail_undisturbed mail) rfl rfl rfl fun _ _ => ?_
        rw [Terminal.Console.take, Terminal.Console.moves, Terminal.eventTasks_moves]
        exact .finished
      · contradiction
      · cases event_turned
        exact advanceConsole_consistent_of_own _ consistent found refl rfl rfl rfl
          fun _ _ => .finished

theorem seat_before_newcomer {session : Session} {server : Server}
    (consistent : Consistent config venue) (fresh : session.id = ⟨venue.server.nextId⟩)
    (seated : seat ∈ venue.server.seats) :
    (seat.session, ({ venue with server }.setActivity session.id (.shared [])).activity
      seat.session.id) ∈ venue.parties := by
  have listed : (seat.session, venue.activity seat.session.id) ∈ venue.parties :=
    List.mem_append_left _ (List.mem_map.mpr ⟨seat, seated, rfl⟩)
  have apart := ne_newcomer consistent fresh listed
  simpa [setActivity, apart] using listed

theorem openSessionIn_consistent (user room : String) (consistent : Consistent config venue) :
    Consistent config (venue.openWith (venue.server.openSessionIn? user room)) := by
  cases opens : venue.server.openSessionIn? user room with
  | none => exact consistent
  | some result =>
      obtain ⟨⟨session, opened⟩, created, rfl⟩ := Option.map_eq_some_iff.mp opens
      obtain ⟨fresh, registry, queued, nextId, seats, consoles⟩ := Server.newSession?_some created
      have idle : ∀ absent, Proper session absent (.shared []) := by
        intro absent call listed
        contradiction
      refine consistent_of_newcomer consistent fresh registry queued nextId ?_ ?_ idle
      · simp only [openWith, parties_ids, setActivity, seats, consoles, List.map_append,
          List.map_cons, List.map_nil, List.append_assoc, List.singleton_append]
        exact List.perm_middle
      · intro party listed
        rcases List.mem_append.mp listed with in_seat | in_console
        · obtain ⟨seat, seated, rfl⟩ := List.mem_map.mp in_seat
          simp only [openWith, setActivity, seats, List.mem_append, List.mem_singleton] at seated
          rcases seated with before | rfl
          · exact Or.inr (seat_before_newcomer consistent fresh before)
          · exact Or.inl (by simp [openWith, setActivity])
        · simp only [openWith, setActivity, consoles] at in_console
          exact Or.inr (List.mem_append_right _ in_console)

theorem openConsole_consistent (user room : String) (mode : Terminal.Mode)
    (sink : Terminal.Sink) (now : Timestamp) (consistent : Consistent config venue) :
    Consistent config
      (venue.openWith (venue.server.openConsole? user room mode sink now)) := by
  cases opens : venue.server.openConsole? user room mode sink now with
  | none => exact consistent
  | some result =>
      obtain ⟨⟨session, opened⟩, created, rfl⟩ := Option.map_eq_some_iff.mp opens
      obtain ⟨fresh, registry, queued, nextId, seats, consoles⟩ := Server.newSession?_some created
      have connecting : ∀ absent, Proper session absent
          (.exclusive (Terminal.Console.create session mode sink now).moves) := by
        intro absent
        rw [Terminal.create_moves]
        exact underway_of_wish session now .connect
      refine consistent_of_newcomer consistent fresh registry queued nextId ?_ ?_ connecting
      · simp only [openWith, parties_ids, setActivity, seats, consoles, List.map_append,
          List.map_cons, List.map_nil]
        rw [← List.append_assoc]
        exact List.perm_append_singleton _ _
      · intro party listed
        rcases List.mem_append.mp listed with in_seat | in_console
        · obtain ⟨seat, seated, rfl⟩ := List.mem_map.mp in_seat
          simp only [openWith, setActivity, seats] at seated
          exact Or.inr (seat_before_newcomer consistent fresh seated)
        · obtain ⟨console, present, rfl⟩ := List.mem_map.mp in_console
          simp only [openWith, setActivity, consoles, List.mem_append, List.mem_singleton]
            at present
          rcases present with before | rfl
          · exact Or.inr (List.mem_append_right _ (List.mem_map.mpr ⟨console, before, rfl⟩))
          · exact Or.inl rfl

-- Input that arrives at a console changes nothing of what it is doing.
theorem setConsole_consistent {changed : Terminal.Console}
    (consistent : Consistent config venue) (found : venue.server.console? id = some console)
    (session : changed.session = console.session) (tasks : changed.tasks = console.tasks) :
    Consistent config { venue with server := venue.server.setConsole changed } := by
  have undisturbed := venue.server.setConsole_undisturbed changed
  have own := accords_of_console consistent found
  have moves : changed.moves = console.moves := by
    simp only [Terminal.Console.moves, tasks]
  refine consistent_of_console changed consistent found ?_ rfl rfl rfl (undisturbed.spares id) ?_
  · rw [session]
    exact (console_found found).1
  · rw [session, moves]
    exact own.undisturbed undisturbed

theorem step_consistent (act : Act) (consistent : Consistent config venue) :
    Consistent config (venue.step act) := by
  cases act with
  | openSession user room => exact openSessionIn_consistent user _ consistent
  | openSessionIn user room => exact openSessionIn_consistent user room consistent
  | openConsole user room mode sink now =>
      exact openConsole_consistent user room mode sink now consistent
  | begin caller now wish => exact begin_consistent caller now wish consistent
  | proceed caller index => exact proceed_consistent caller index consistent
  | abandon caller index => exact abandon_consistent caller index consistent
  | turn visit now turn =>
      simp only [step]
      cases turned : venue.server.turn? visit now turn with
      | none => exact consistent
      | some server => exact turn_consistent turn consistent turned
  | poll owner => exact consistent_of_none consistent rfl rfl rfl fun _ _ foretold => foretold
  | dropHandle owner => exact dropHandle_consistent owner consistent
  | dropInbox owner => exact dropInbox_consistent owner consistent
  | feed id octets =>
      simp only [step, Server.feed]
      split
      · rename_i console found
        exact setConsole_consistent consistent found rfl rfl
      · exact consistent
  | endInput id =>
      simp only [step, Server.endInput]
      split
      · rename_i console found
        exact setConsole_consistent consistent found rfl rfl
      · exact consistent
  | stop => exact consistent_of_none consistent rfl rfl rfl fun _ _ foretold => foretold

theorem run_consistent (acts : List Act) (consistent : Consistent config venue) :
    Consistent config (venue.run acts) := by
  induction acts generalizing venue with
  | nil => exact consistent
  | cons act rest ih => exact ih (step_consistent act consistent)

theorem start_consistent (started : start? config = some venue) : Consistent config venue := by
  obtain ⟨-, rfl⟩ := start?_some started
  refine ⟨rfl, List.nodup_nil, ?_, ?_, ?_⟩
  · intro party listed
    contradiction
  · intro party listed
    contradiction
  · intro id _
    simp [Foretold, Server.unoccupied, Server.queued, Server.registry, Service.create,
      Exchange.create, Hub.create, Hub.member?]

/-- Whatever is in progress on a session, when the hub has no request of it waiting it is
registered, if at all, under its own name and in the room it believes to be in, which is also the
room whose users it asks for. -/
theorem registration_agrees (config : Config) (start : Venue) (acts : List Act)
    (session : Session) (activity : Activity) (member : Member)
    (started : start? config = some start)
    (party : (session, activity) ∈ (start.run acts).parties)
    (silent : ∀ request ∈ (start.run acts).server.queued, request.sender ≠ session.id)
    (registered : (start.run acts).server.registry.member? session.id = some member) :
    member.name = session.user ∧
      member.room = (if session.room.isEmpty then config.defaultRoom else session.room) ∧
      ∀ now, ∃ asked, session.moves now .listUsers = [.send (.listUsers asked)] ∧
        (start.run acts).server.registry.roomOrDefault asked = member.room := by
  have consistent := run_consistent acts (start_consistent started)
  have agreed := (consistent.accords _ party).foretold.settled silent
  simp only [registered, Option.all_some, Session.fits, Bool.and_eq_true,
    decide_eq_true_eq] at agreed
  obtain ⟨⟨-, named⟩, placed⟩ := agreed
  refine ⟨named, placed, fun now => ⟨session.room, rfl, ?_⟩⟩
  rw [placed, Hub.roomOrDefault, consistent.defaultRoom]
  rfl

theorem registration_agrees_of_abandoned_switch :
    let now : Timestamp := ⟨0, 0, by decide, by decide, by decide⟩
    let config : Config := ⟨"general", 20, 1, 64⟩
    let bob : ClientId := ⟨2⟩
    let hub : Act := .turn .enrolled now .hub
    let start : Venue :=
      ⟨⟨config, ⟨Service.create config, ⟨⟨1, [], true⟩, 1⟩, .scheduled, .armed⟩, [], [], 2⟩,
        fun _ => .shared []⟩
    -- The switch is abandoned when the room has been noted and nothing sent for it yet.
    let acts : List Act :=
      [.openSessionIn "bob" "", hub, .begin bob now .connect, .proceed bob 0, hub,
        .begin bob now (.switchRoom "rust"), .proceed bob 0, hub, .proceed bob 0,
        .abandon bob 0, .begin bob now .connect, .proceed bob 0, hub]
    start? config = some start ∧
      (⟨bob, "bob", "rust"⟩, .shared []) ∈ (start.run acts).parties ∧
      (start.run acts).server.registry.member? bob = some ⟨bob, bob, "bob", "rust"⟩ ∧
      (start.run acts).server.registry.roomOrDefault "rust" = "rust" := by
  intro now config bob hub start acts
  have party : ((⟨bob, "bob", "rust"⟩ : Session), Activity.shared []) ∈
      (start.run acts).parties := by decide +kernel
  have registered : (start.run acts).server.registry.member? bob =
      some ⟨bob, bob, "bob", "rust"⟩ := by decide +kernel
  have silent : ∀ request ∈ (start.run acts).server.queued, request.sender ≠ bob := by
    decide +kernel
  obtain ⟨_, _, asks⟩ := registration_agrees config start acts ⟨bob, "bob", "rust"⟩ (.shared [])
    ⟨bob, bob, "bob", "rust"⟩ rfl party silent registered
  obtain ⟨asked, same, resolved⟩ := asks now
  cases same
  exact ⟨rfl, party, registered, resolved⟩

end ChatRooms.Venue
