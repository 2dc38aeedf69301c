import ChatRooms.Proofs.Server.Ledger
import ChatRooms.Proofs.Server.Schedule

/-! A session asks for the users of the room that it is in. A call that changes the room asks for
none, and while it is in progress there is no other; so the room of the session is still the one
that the question was made up with when the hub takes it. -/
namespace ChatRooms

def Candid (room : String) (moves : List Move) : Prop :=
  ∀ other, .send (.listUsers other) ∈ moves → moves = [.send (.listUsers room)]

/-- The calls in progress ask for the users of no other room than this, and a call that can change
the room does not ask at all. -/
def Sincere (room : String) : Activity → Prop
  | .shared calls => ∀ call ∈ calls, Candid room call ∧ ∀ other, .enter other ∉ call
  | .exclusive call => ∀ other, .send (.listUsers other) ∉ call

variable {room : String} {moves : List Move} {activity : Activity} {index : Nat}

theorem candid_of_silent (silent : ∀ other, .send (.listUsers other) ∉ moves) :
    Candid room moves :=
  fun other asks => absurd asks (silent other)

theorem Candid.tail {first : Move} {rest : List Move} (candid : Candid room (first :: rest)) :
    ∀ other, .send (.listUsers other) ∉ rest := by
  intro other asks
  obtain ⟨-, rfl⟩ := List.cons.inj (candid other (List.mem_cons_of_mem first asks))
  contradiction

theorem Candid.asked {other : String} {rest : List Move}
    (candid : Candid room (.send (.listUsers other) :: rest)) : other = room := by
  cases candid other List.mem_cons_self
  rfl

theorem moves_candid (session : Session) (now : Timestamp) (wish : Wish) :
    Candid session.room (session.moves now wish) := by
  cases wish with
  | listUsers => exact fun _ _ => rfl
  | connect | disconnect | post | postTo | direct | switchRoom =>
      exact candid_of_silent (by simp [Session.moves])

theorem Sincere.asked {other : String} {rest : List Move} (sincere : Sincere room activity)
    (next : activity.call index = .send (.listUsers other) :: rest) : other = room := by
  cases activity with
  | shared calls => exact (sincere _ (mem_of_call next)).1.asked
  | exclusive call =>
      cases next
      exact absurd List.mem_cons_self (sincere other)

theorem Sincere.finish (sincere : Sincere room activity) (index : Nat) :
    Sincere room (activity.leave index []) := by
  cases activity with
  | shared calls => exact fun call listed => sincere call (List.mem_of_mem_eraseIdx listed)
  | exclusive call => simp [Activity.leave, Sincere]

theorem Sincere.leave {first : Move} {rest : List Move} (sincere : Sincere room activity)
    (next : activity.call index = first :: rest) : Sincere room (activity.leave index rest) := by
  cases activity with
  | exclusive call =>
      cases next
      exact fun other asks => sincere other (List.mem_cons_of_mem first asks)
  | shared calls =>
      obtain ⟨candid, stays⟩ := sincere _ (mem_of_call next)
      cases rest with
      | nil => exact sincere.finish index
      | cons second rest =>
          intro call listed
          rcases List.mem_or_eq_of_mem_set listed with before | rfl
          · exact sincere call before
          · exact ⟨candid_of_silent candid.tail,
              fun other enters => stays other (List.mem_cons_of_mem first enters)⟩

-- Only a call that excludes all others can change the room, and it asks for nothing.
theorem Sincere.enter {other entered : String} {rest : List Move}
    (sincere : Sincere room activity) (next : activity.call index = .enter entered :: rest) :
    Sincere other (activity.leave index rest) := by
  cases activity with
  | shared calls =>
      exact absurd List.mem_cons_self ((sincere _ (mem_of_call next)).2 entered)
  | exclusive call =>
      cases next
      exact fun room asks => sincere room (List.mem_cons_of_mem _ asks)

theorem Sincere.begin {session : Session} {now : Timestamp} {wish : Wish} {begun : Activity}
    (sincere : Sincere session.room activity)
    (begins : activity.begin? (session.moves now wish) wish = some begun) :
    Sincere session.room begun := by
  rcases moves_of_wish session now wish with ⟨room, rfl⟩ | ⟨command, -, same⟩
  · simp only [Activity.begin?] at begins
    split at begins
    · cases begins
      simp [Sincere, Session.moves]
    · contradiction
  · have candid := moves_candid session now wish
    have stays : ∀ other, .enter other ∉ session.moves now wish := by simp [same]
    unfold Activity.begin? at begins
    split at begins
    · simp [Session.moves] at same
    · cases begins
      intro call listed
      rcases List.mem_append.mp listed with before | new
      · exact sincere call before
      · exact List.mem_singleton.mp new ▸ ⟨candid, stays⟩
    · cases begins
      intro call listed
      exact List.mem_singleton.mp listed ▸ ⟨candid, stays⟩
    · contradiction

namespace Terminal

theorem entryTasks_candid (session : Session) (now : Timestamp) (entry : Entry) :
    Candid session.room ((entryTasks session now entry).filterMap Task.move?) := by
  have wished (wish : Wish) :
      Candid session.room ((wishTasks session now wish).filterMap Task.move?) := by
    rw [wishTasks_moves]
    exact moves_candid session now wish
  cases entry with
  | blank | quit => exact candid_of_silent (by simp [entryTasks])
  | help => exact candid_of_silent (by simp [entryTasks])
  | say content => exact wished (.post content)
  | users => exact wished .listUsers
  | join room => simpa [entryTasks] using wished (.switchRoom room)
  | direct recipient content => exact wished (.direct recipient content)

theorem lineTasks_candid (session : Session) (mode : Mode) (now : Timestamp) (line : String) :
    Candid session.room ((lineTasks session mode now line).filterMap Task.move?) := by
  unfold lineTasks
  split
  · rw [leaveTasks_moves]
    exact candid_of_silent (by simp)
  · rw [List.filterMap_append, promptTasks_moves, List.append_nil]
    exact entryTasks_candid session now _
  · rw [List.filterMap_append, promptTasks_moves, List.append_nil, writeLine_moves]
    exact candid_of_silent (by simp)

namespace Console

variable {console next : Console} {happening : Happening}

def IsCandid (console : Console) : Prop :=
  Candid console.session.room console.moves

theorem moves_of_first {task : Task} {tasks : List Task} (first : console.tasks = task :: tasks) :
    console.moves = task.move?.toList ++ tasks.filterMap Task.move? := by
  rw [moves, first, List.filterMap_cons]
  cases task.move? <;> rfl

theorem isCandid_of_nothing (nothing : console.moves = []) : console.IsCandid := by
  rw [IsCandid, nothing]
  exact candid_of_silent (by simp)

theorem IsCandid.print {task : Task} {tasks : List Task} {text : String}
    (candid : console.IsCandid) (first : console.tasks = task :: tasks)
    (silent : task.move? = none) (emits : Emits { console with tasks } text next) :
    next.IsCandid := by
  rcases emits_moves emits with same | nothing
  · have kept : Console.moves { console with tasks } = console.moves := by
      rw [moves_of_first first, silent]
      rfl
    rw [IsCandid, emits.session, same, kept]
    exact candid
  · exact isCandid_of_nothing nothing

theorem isCandid_of_read {now : Timestamp} (reads : console.readLine? now = some next) :
    next.IsCandid := by
  cases readsTo_of_readLine? reads with
  | ended => exact candid_of_silent (by simp [moves, leaveTasks_moves])
  | garbled => exact isCandid_of_nothing rfl
  | line => exact lineTasks_candid _ _ _ _

theorem IsCandid.goes (candid : console.IsCandid) (goes : console.Goes happening next) :
    next.IsCandid := by
  cases goes with
  | feed | endInput => exact candid
  | refuse => exact isCandid_of_nothing rfl
  | finish tasks _ first finishes => cases finishes <;> exact isCandid_of_nothing rfl
  | read now _ ready reads => exact isCandid_of_read reads
  | take event ready => exact isCandid_of_nothing (eventTasks_moves _ _ _)
  | print task text tasks _ first prints emits =>
      exact candid.print first (move?_of_text prints) emits
  | send command tasks first | enter room tasks first =>
      rw [IsCandid, moves_of_first first] at candid
      exact candid_of_silent candid.tail

theorem IsCandid.reaches {happenings : List Happening} (candid : console.IsCandid)
    (reaches : console.Reaches happenings next) : next.IsCandid := by
  induction reaches with
  | none => exact candid
  | next goes _ ih => exact ih (candid.goes goes)

theorem create_isCandid (session : Session) (mode : Mode) (sink : Sink)
    (now : Timestamp) : (create session mode sink now).IsCandid := by
  rw [IsCandid, create_moves]
  exact candid_of_silent (by simp)

theorem IsCandid.asked {room : String} {tasks : List Task} (candid : console.IsCandid)
    (first : console.tasks = .move (.send (.listUsers room)) :: tasks) :
    room = console.session.room := by
  rw [IsCandid, moves_of_first first] at candid
  exact candid.asked

end Console
end Terminal

namespace Server

open Terminal

variable {server middle after : Server} {id : ClientId} {console next : Console} {seat : Seat}
  {label : Option (ClientId × Happening)}

def roomOf? (server : Server) (id : ClientId) : Option String :=
  ((server.seat? id).map (·.session.room)).or ((server.console? id).map (·.session.room))

theorem roomOf?_of_seat (found : server.seat? id = some seat) :
    server.roomOf? id = some seat.session.room := by
  rw [roomOf?, found]
  rfl

theorem Orderly.roomOf?_of_console (orderly : server.Orderly)
    (found : server.console? id = some console) :
    server.roomOf? id = some console.session.room := by
  rw [roomOf?, orderly.no_seat found, found]
  rfl

-- What passes makes a console of a session that had none, or does not.
theorem Passes.newborn (passes : server.Passes label after) (orderly : server.Orderly)
    (before : server.console? id = none) (found : after.console? id = some next) :
    ∃ session mode sink now, next = Console.create session mode sink now := by
  have nowhere (same : after.console? id = server.console? id) : False := by
    rw [same, before] at found
    contradiction
  have appended {opened : Server} {session : Session} {mode : Mode} {sink : Sink}
      {now : Timestamp} (none_yet : opened.console? id = none)
      (there : (opened.console? id).or (if session.id = id then
        some (Console.create session mode sink now) else none) = some next) :
      ∃ session mode sink now, next = Console.create session mode sink now := by
    rw [none_yet, Option.none_or] at there
    split at there
    · exact ⟨_, _, _, _, (Option.some.inj there).symm⟩
    · contradiction
  have replaced {other : ClientId} {changed : Console} (same : after.console? id =
      if other = id then some changed else server.console? id)
      (listed : server.console? other ≠ none) : False := by
    by_cases here : other = id
    · exact listed (here ▸ before)
    · exact nowhere (by rw [same, if_neg here])
  cases passes with
  | stays | stop | enter | poll | dropHandle | dropInbox => exact (nowhere rfl).elim
  | hub visit now _ turned =>
      obtain ⟨loop, _, rfl⟩ := Option.map_eq_some_iff.mp turned
      exact (nowhere rfl).elim
  | openSeat user room session opened created =>
      exact (nowhere (newSession?_found created id).2).elim
  | openConsole user room mode sink now session opened created =>
      rw [console?_append] at found
      exact appended ((newSession?_found created id).2.trans before) found
  | offer other seat command _ _ _ taken =>
      obtain ⟨_, _, _, _, consoles⟩ := offer_ok taken
      exact (nowhere (congrArg (List.find? _) consoles)).elim
  | attend other seat mode sink now seated =>
      rw [console?_append { server with seats := server.seats.filter (·.session.id ≠ other) }]
        at found
      exact appended before found
  | supply other there changed supply found_there goes =>
      have self := goes.session_id.trans (console_listed found_there).1
      refine (replaced (console?_replaced found_there self id) ?_).elim
      simp [found_there]
  | console other there changed happening middle found_there goes affords =>
      have self := goes.session_id.trans (console_listed found_there).1
      have still := (orderly.afforded found_there affords).2
      have apart : id ≠ other := by
        rintro rfl
        rw [before] at found_there
        contradiction
      have away := (affords.unmoved apart).advance still self apart
      exact (nowhere away.console).elim
  | desert other there mail found_there ready alone =>
      exact absurd alone (orderly.not_alone found_there (Console.isReady_iff.mp ready).1)

/-- A console is one that there was, after what happened to it, or has just been created. -/
theorem Passes.console_cases (passes : server.Passes label after) (orderly : server.Orderly)
    (found : after.console? id = some next) :
    (∃ console, server.console? id = some console ∧
      console.Reaches (atConsole id label) next) ∨
    (server.console? id = none ∧
      ∃ session mode sink now, next = Console.create session mode sink now) := by
  cases before : server.console? id with
  | none => exact Or.inr ⟨rfl, passes.newborn orderly before found⟩
  | some console =>
      obtain ⟨there, projects⟩ := passes.projects orderly before
      cases projects.found.symm.trans found
      exact Or.inl ⟨console, rfl, projects.reaches⟩

end Server

namespace Venue

open Server Terminal

variable {venue : Venue} {id : ClientId}

def Outspoken (venue : Venue) : Prop :=
  ∀ id seat, venue.server.seat? id = some seat → Sincere seat.session.room (venue.activity id)

theorem Outspoken.frame {server : Server} (outspoken : venue.Outspoken)
    (seats : server.seats = venue.server.seats) : Outspoken { venue with server } := by
  intro id seat found
  exact outspoken id seat ((congrArg (List.find? _) seats).symm.trans found)

theorem Outspoken.setActivity {activity : Activity} (outspoken : venue.Outspoken)
    (caller : ClientId) (own : ∀ seat, venue.server.seat? caller = some seat →
      Sincere seat.session.room activity) : (venue.setActivity caller activity).Outspoken := by
  intro id seat found
  by_cases here : id = caller
  · subst here
    have changed : (venue.setActivity id activity).activity id = activity := if_pos rfl
    rw [changed]
    exact own seat found
  · have kept : (venue.setActivity caller activity).activity id = venue.activity id := if_neg here
    rw [kept]
    exact outspoken id seat found

theorem Outspoken.withSeat {caller : ClientId} {act : Seat → Venue} (outspoken : venue.Outspoken)
    (acts : ∀ seat, venue.server.seat? caller = some seat → (act seat).Outspoken) :
    (venue.withSeat caller act).Outspoken := by
  unfold Venue.withSeat
  split
  · exact outspoken
  · rename_i seat filtered
    exact acts seat (Option.filter_eq_some_iff.mp filtered).1

theorem Outspoken.openWith {opens : Option (Session × Server)} (outspoken : venue.Outspoken)
    (joins : ∀ session opened, opens = some (session, opened) → ∀ id, id ≠ session.id →
      opened.seat? id = venue.server.seat? id) : (venue.openWith opens).Outspoken := by
  cases opens with
  | none => exact outspoken
  | some result =>
      obtain ⟨session, opened⟩ := result
      intro id seat found
      by_cases new : id = session.id
      · subst new
        have nothing : (venue.openWith (some (session, opened))).activity session.id =
            .shared [] := if_pos rfl
        simp [nothing, Sincere]
      · have kept : (venue.openWith (some (session, opened))).activity id = venue.activity id :=
          if_neg new
        rw [kept]
        exact outspoken id seat ((joins session opened rfl id new).symm.trans found)

theorem seat?_openSessionIn? {user room : String} {session : Session} {opened : Server}
    (opens : venue.server.openSessionIn? user room = some (session, opened)) (id : ClientId)
    (apart : id ≠ session.id) : opened.seat? id = venue.server.seat? id := by
  obtain ⟨⟨created, server⟩, fresh, same⟩ := Option.map_eq_some_iff.mp opens
  cases same
  rw [seat?_append, if_neg (Ne.symm apart), Option.or_none]
  exact (newSession?_found fresh id).1

theorem Outspoken.begin (outspoken : venue.Outspoken) (caller : ClientId) (now : Timestamp)
    (wish : Wish) : (venue.begin caller now wish).Outspoken := by
  refine outspoken.withSeat fun seat found => ?_
  split
  · exact outspoken
  · rename_i begins
    refine outspoken.setActivity caller fun other there => ?_
    cases found.symm.trans there
    exact (outspoken caller seat found).begin begins

theorem Outspoken.setSeat {changed seat : Seat} {caller : ClientId}
    {activity : ClientId → Activity} (outspoken : venue.Outspoken)
    (found : venue.server.seat? caller = some seat) (self : changed.session.id = caller)
    (own : Sincere changed.session.room (activity caller))
    (others : ∀ id, id ≠ caller → activity id = venue.activity id) :
    Outspoken ⟨venue.server.setSeat changed, activity⟩ := by
  intro id there listed
  have replaced : _ = some there := (seat?_replaced found self id).symm.trans listed
  by_cases here : caller = id
  · subst here
    rw [if_pos rfl] at replaced
    cases replaced
    exact own
  · rw [if_neg here] at replaced
    change Sincere there.session.room (activity id)
    rw [others id (Ne.symm here)]
    exact outspoken id there replaced

-- A call that has changed the room asks for nothing, so it does not matter which room that is.
theorem Outspoken.enter {caller : ClientId} {seat : Seat} {room : String} {activity : Activity}
    (outspoken : venue.Outspoken) (found : venue.server.seat? caller = some seat)
    (own : Sincere room activity) :
    ({ venue with server := venue.server.enterRoom caller room }.setActivity caller
      activity).Outspoken := by
  have self : (Seat.session { seat with session := seat.session.enter room }).id = caller :=
    (seat_listed found).1
  rw [Server.enterRoom, found]
  refine outspoken.setSeat found self ?_ fun _ apart => if_neg apart
  rw [if_pos rfl]
  exact own

theorem Outspoken.proceed (outspoken : venue.Outspoken) (caller : ClientId) (index : Nat) :
    (venue.proceed caller index).Outspoken := by
  refine outspoken.withSeat fun seat found => ?_
  have sincere := outspoken caller seat found
  dsimp only
  split
  · exact outspoken
  · rename_i call
    exact outspoken.enter found (sincere.enter call)
  · rename_i call
    split
    · rename_i taken
      obtain ⟨_, _, _, seats, _⟩ := offer_ok taken
      refine (outspoken.frame seats).setActivity caller fun other there => ?_
      cases found.symm.trans ((congrArg (List.find? _) seats).symm.trans there)
      exact sincere.leave call
    · exact outspoken
    · refine outspoken.setActivity caller fun other there => ?_
      cases found.symm.trans there
      exact sincere.finish index

-- A seat that keeps its session is as good as before.
theorem Outspoken.reseat {changed seat : Seat} {caller : ClientId} (outspoken : venue.Outspoken)
    (found : venue.server.seat? caller = some seat) (session : changed.session = seat.session) :
    Outspoken { venue with server := venue.server.setSeat changed } := by
  have self : changed.session.id = caller := session ▸ (seat_listed found).1
  have own : Sincere changed.session.room (venue.activity caller) :=
    session ▸ outspoken caller seat found
  exact outspoken.setSeat found self own fun _ _ => rfl

theorem Outspoken.dropHandle (outspoken : venue.Outspoken) (owner : ClientId) :
    (venue.dropHandle owner).Outspoken := by
  refine outspoken.withSeat fun seat found => ?_
  unfold Server.dropHandle
  split
  · rename_i there filtered
    have kept := outspoken.reseat (Option.filter_eq_some_iff.mp filtered).1
      (rfl : Seat.session { there with hasHandle := false } = there.session)
    exact (kept.frame rfl).setActivity owner fun _ _ => by simp [Sincere]
  · exact outspoken.setActivity owner fun _ _ => by simp [Sincere]

theorem Outspoken.dropInbox (outspoken : venue.Outspoken) (owner : ClientId) :
    Outspoken { venue with server := venue.server.dropInbox owner } := by
  unfold Server.dropInbox
  split
  · rename_i seat filtered
    have kept := outspoken.reseat (Option.filter_eq_some_iff.mp filtered).1
      (rfl : Seat.session { seat with hasInbox := false } = seat.session)
    exact kept.frame rfl
  · exact outspoken

theorem perform_outspoken (deed : Deed) (outspoken : venue.Outspoken) :
    (venue.perform deed).Outspoken := by
  cases deed with
  | attend owner mode sink now =>
      rw [perform]
      split
      · unfold Server.attend
        split
        · exact outspoken
        · intro id seat listed
          have parted : _ = some seat := (seat?_without venue.server owner id).symm.trans listed
          split at parted
          · contradiction
          · exact outspoken id seat parted
      · exact outspoken
  | act act =>
      cases act with
      | openSession user room =>
          exact outspoken.openWith fun _ _ opens => seat?_openSessionIn? opens
      | openSessionIn user room =>
          exact outspoken.openWith fun _ _ opens => seat?_openSessionIn? opens
      | openConsole user room mode sink now =>
          refine outspoken.openWith fun session opened opens id _ => ?_
          obtain ⟨⟨created, server⟩, fresh, same⟩ := Option.map_eq_some_iff.mp opens
          cases same
          exact (newSession?_found fresh id).1
      | begin caller now wish => exact outspoken.begin caller now wish
      | proceed caller index => exact outspoken.proceed caller index
      | abandon caller index =>
          refine outspoken.withSeat fun seat found => ?_
          refine outspoken.setActivity caller fun other there => ?_
          exact (outspoken caller other there).finish index
      | turn visit now turn =>
          refine outspoken.frame ?_
          cases turned : venue.server.turn? visit now turn with
          | none => rfl
          | some after => exact turn?_seats turned
      | poll owner =>
          rw [perform]
          split
          · exact outspoken
          · exact outspoken
      | dropHandle owner => exact outspoken.dropHandle owner
      | dropInbox owner => exact outspoken.dropInbox owner
      | feed owner octets =>
          refine outspoken.frame ?_
          unfold Server.feed
          split <;> rfl
      | endInput owner =>
          refine outspoken.frame ?_
          unfold Server.endInput
          split <;> rfl
      | stop => exact outspoken

structure Frank (venue : Venue) : Prop where
  orderly : venue.server.Orderly
  callers : venue.Outspoken
  consoles : ∀ id console, venue.server.console? id = some console → console.IsCandid

theorem perform_frank (deed : Deed) (frank : venue.Frank) : (venue.perform deed).Frank := by
  refine ⟨perform_orderly deed frank.orderly, perform_outspoken deed frank.callers,
    fun id next found => ?_⟩
  obtain ⟨label, passes, -⟩ := perform_shows venue deed
  rcases passes.console_cases frank.orderly found with
    ⟨console, before, reaches⟩ | ⟨-, session, mode, sink, now, rfl⟩
  · exact (frank.consoles id console before).reaches reaches
  · exact Console.create_isCandid session mode sink now

theorem play_frank (deeds : List Deed) (frank : venue.Frank) : (venue.play deeds).Frank := by
  induction deeds generalizing venue with
  | nil => exact frank
  | cons deed rest ih => exact ih (perform_frank deed frank)

theorem start_frank {config : Config} {start : Venue} (started : start? config = some start) :
    start.Frank := by
  have orderly := start_orderly started
  obtain ⟨-, rfl⟩ := start?_some started
  exact ⟨orderly, nofun, nofun⟩

/-! ## Who sends a request -/

def Sends (venue : Venue) (request : Request) : Prop :=
  (∃ index rest seat, venue.server.seat? request.sender = some seat ∧
    (venue.activity request.sender).call index = .send request.command :: rest) ∨
  ∃ console tasks, venue.server.console? request.sender = some console ∧
    console.tasks = .move (.send request.command) :: tasks

theorem taskTurn?_queued {server after : Server} {console : Console}
    (turned : server.taskTurn? console = some after) :
    after.queued = server.queued ∨ ∃ command tasks,
      console.tasks = .move (.send command) :: tasks ∧
        after.queued = server.queued ++ [⟨console.session.id, command⟩] := by
  have advanced (middle : Server) (next : Console) :
      (middle.advanceConsole next).queued = middle.queued :=
    (advanceConsole_undisturbed middle next).queued
  unfold taskTurn? at turned
  split at turned
  · contradiction
  · rename_i task tasks first
    cases task with
    | write | endLine | prompt | finish =>
        cases turned
        exact Or.inl (advanced _ _)
    | move move =>
        cases move with
        | enter room =>
            cases turned
            exact Or.inl (advanced _ _)
        | send command =>
            simp only at turned
            split at turned
            · rename_i taken
              cases turned
              exact Or.inr ⟨command, tasks, first, (advanced _ _).trans (offer_ok taken).2.1⟩
            · contradiction
            · cases turned
              exact Or.inl (advanced _ _)

theorem accepted_of_offer {before after : Server} {request accepted : Request}
    (queued : after.queued = before.queued ++ [request])
    (listed : accepted ∈ Server.accepted before after) : accepted = request := by
  rw [Server.accepted, queued, List.drop_left] at listed
  exact List.mem_singleton.mp listed

theorem not_accepted {before after : Server} {request : Request}
    (queued : after.queued = before.queued) : request ∉ Server.accepted before after := by
  rw [accepted_of_queued queued]
  exact List.not_mem_nil

section Sends

variable {request : Request}

theorem sends_of_proceed {caller : ClientId} {index : Nat}
    (taken : request ∈ accepted venue (.act (.proceed caller index))) : venue.Sends request := by
  change request ∈ Server.accepted venue.server (venue.proceed caller index).server at taken
  unfold Venue.proceed withSeat at taken
  split at taken
  · exact absurd taken (not_accepted rfl)
  · rename_i seat filtered
    obtain ⟨found, -⟩ := Option.filter_eq_some_iff.mp filtered
    dsimp only at taken
    split at taken
    · exact absurd taken (not_accepted rfl)
    · refine absurd taken (not_accepted ?_)
      rw [Server.enterRoom, found]
      rfl
    · rename_i command rest call
      split at taken
      · rename_i offered
        obtain rfl := accepted_of_offer (offer_ok offered).2.1 taken
        exact Or.inl ⟨index, rest, seat, found, call⟩
      · exact absurd taken (not_accepted rfl)
      · exact absurd taken (not_accepted rfl)

theorem sends_of_turn {visit : Visit} {now : Timestamp} {turn : Turn} {after : Server}
    (turned : venue.server.turn? visit now turn = some after)
    (taken : request ∈ Server.accepted venue.server after) : venue.Sends request := by
  cases turn with
  | hub =>
      rw [(hubTurn_of_some turned).requests.1] at taken
      contradiction
  | task owner =>
      obtain ⟨console, found, task⟩ := Option.bind_eq_some_iff.mp turned
      rcases taskTurn?_queued task with queued | ⟨command, tasks, first, queued⟩
      · exact absurd taken (not_accepted queued)
      · obtain rfl := accepted_of_offer queued taken
        have self := (console_listed found).1
        exact Or.inr ⟨console, tasks, self ▸ found, first⟩
  | line owner =>
      obtain ⟨console, _, line⟩ := Option.bind_eq_some_iff.mp turned
      obtain ⟨read, _, rfl⟩ := Option.map_eq_some_iff.mp line
      exact absurd taken (not_accepted (advanceConsole_undisturbed _ _).queued)
  | event owner =>
      obtain ⟨console, _, event⟩ := Option.bind_eq_some_iff.mp turned
      unfold eventTurn? at event
      split at event
      · cases event
        exact absurd taken (not_accepted (advanceConsole_undisturbed _ _).queued)
      · contradiction
      · cases event
        exact absurd taken (not_accepted (advanceConsole_undisturbed _ _).queued)

theorem openWith_queued {opens : Option (Session × Server)}
    (kept : ∀ session opened, opens = some (session, opened) →
      opened.queued = venue.server.queued) :
    (venue.openWith opens).server.queued = venue.server.queued := by
  cases opens with
  | none => rfl
  | some result => exact kept result.1 result.2 rfl

theorem openSessionIn?_queued {user room : String} {session : Session} {opened : Server}
    (opens : venue.server.openSessionIn? user room = some (session, opened)) :
    opened.queued = venue.server.queued := by
  obtain ⟨⟨created, server⟩, fresh, same⟩ := Option.map_eq_some_iff.mp opens
  cases same
  exact (newSession?_some fresh).2.2.1

theorem withSeat_queued {caller : ClientId} {act : Seat → Venue}
    (kept : ∀ seat, (act seat).server.queued = venue.server.queued) :
    (venue.withSeat caller act).server.queued = venue.server.queued := by
  unfold withSeat
  split
  · rfl
  · exact kept _

/-- A request that is taken comes from a call or a console whose turn it was to send it. -/
theorem sends_of_accepted {deed : Deed} (taken : request ∈ accepted venue deed) :
    venue.Sends request := by
  have quiet (queued : (venue.perform deed).server.queued = venue.server.queued) :
      venue.Sends request := absurd taken (not_accepted queued)
  cases deed with
  | attend owner mode sink now =>
      apply quiet
      rw [perform]
      split
      · unfold Server.attend
        split <;> rfl
      · rfl
  | act act =>
      cases act with
      | openSession user room =>
          exact quiet (openWith_queued fun _ _ opens => openSessionIn?_queued opens)
      | openSessionIn user room =>
          exact quiet (openWith_queued fun _ _ opens => openSessionIn?_queued opens)
      | openConsole user room mode sink now =>
          refine quiet (openWith_queued fun session opened opens => ?_)
          obtain ⟨⟨created, server⟩, fresh, same⟩ := Option.map_eq_some_iff.mp opens
          cases same
          exact (newSession?_some fresh).2.2.1
      | begin caller now wish =>
          refine quiet (withSeat_queued fun seat => ?_)
          split <;> rfl
      | proceed caller index => exact sends_of_proceed taken
      | abandon caller index => exact quiet (withSeat_queued fun _ => rfl)
      | turn visit now turn =>
          cases turned : venue.server.turn? visit now turn with
          | none =>
              apply quiet
              change ((venue.server.turn? visit now turn).getD venue.server).queued = _
              rw [turned]
              rfl
          | some after =>
              refine sends_of_turn turned ?_
              change request ∈ Server.accepted venue.server
                ((venue.server.turn? visit now turn).getD venue.server) at taken
              rw [turned] at taken
              exact taken
      | poll owner =>
          apply quiet
          rw [perform]
          split <;> rfl
      | dropHandle owner =>
          refine quiet (withSeat_queued fun seat => ?_)
          change (venue.server.dropHandle owner).queued = _
          unfold Server.dropHandle
          split <;> rfl
      | dropInbox owner =>
          apply quiet
          change (venue.server.dropInbox owner).queued = _
          unfold Server.dropInbox
          split <;> rfl
      | feed owner octets =>
          apply quiet
          change (venue.server.feed owner octets).queued = _
          unfold Server.feed
          split <;> rfl
      | endInput owner =>
          apply quiet
          change (venue.server.endInput owner).queued = _
          unfold Server.endInput
          split <;> rfl
      | stop => exact quiet rfl

end Sends

theorem Frank.room_of_sends {room : String} (frank : venue.Frank)
    (sends : venue.Sends ⟨id, .listUsers room⟩) : venue.server.roomOf? id = some room := by
  rcases sends with ⟨index, rest, seat, found, call⟩ | ⟨console, tasks, found, first⟩
  · obtain rfl := (frank.callers id seat found).asked call
    exact roomOf?_of_seat found
  · obtain rfl := (frank.consoles id console found).asked first
    exact frank.orderly.roomOf?_of_console found

end Venue
end ChatRooms
