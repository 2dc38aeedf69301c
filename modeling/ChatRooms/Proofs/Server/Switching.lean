import ChatRooms.Proofs.Server.ListRequests
import ChatRooms.Proofs.Server.Shutdown

/-! A change of room in the hands of a caller. It takes two requests with a note of the new room in
between, and each of the two can come to wait and then find the hub gone. What the session and the
hub know after each move is told here, and from it what they know when the call is over: the room is
the new one as soon as the hub has taken the first request, whether it takes the second or not. -/
namespace ChatRooms

namespace Server

def answer? (server : Server) (caller : ClientId) :
    List Move → Option (Except SessionError Unit)
  | [] => none
  | .enter _ :: rest => if rest.isEmpty then some (.ok ()) else none
  | .send command :: rest =>
      match server.offer caller command with
      | .ok _ => if rest.isEmpty then some (.ok ()) else none
      | .error .full => none
      | .error .closed => some (.error .hubGone)

variable {server : Server} {caller : ClientId} {moves : List Move}
  {answer : Except SessionError Unit}

-- The program answers the same, and it does not matter when.
theorem carryOut_of_answer (visit : Visit) (now : Timestamp)
    (answers : server.answer? caller moves = some answer) :
    (server.carryOut visit now caller moves).2 = answer := by
  unfold answer? at answers
  split at answers
  · contradiction
  · rename_i room rest
    split at answers
    · rename_i last
      obtain rfl : rest = [] := List.isEmpty_iff.mp last
      exact Option.some.inj answers
    · contradiction
  · rename_i command rest
    split at answers
    · rename_i accepted taken
      split at answers
      · rename_i last
        obtain rfl : rest = [] := List.isEmpty_iff.mp last
        simpa [carryOut, send, taken] using answers
      · contradiction
    · contradiction
    · rename_i gone
      simpa [carryOut, send, gone] using answers

theorem shut_of_closed {command : Command}
    (closed : server.offer caller command = .error .closed) :
    server.hub.channel.box.isOpen = false := by
  unfold offer at closed
  rcases server.hub.offer_cases ⟨caller, command⟩ with ⟨shut, -⟩ | ⟨-, -, taken⟩ | ⟨-, -, full⟩
  · exact shut
  · simp [taken, Except.map] at closed
  · simp [full, Except.map] at closed

theorem Staged.finished (staged : server.Staged)
    (shut : server.hub.channel.box.isOpen = false) : server.hub.phase = .finished := by
  by_contra goesOn
  rw [staged.opened.mpr goesOn] at shut
  contradiction

end Server

namespace Venue

open Server

def answered (caller : ClientId) (venue : Venue) : Deed → List (Except SessionError Unit)
  | .act (.proceed other index) =>
      if other = caller && (venue.server.seat? caller).any (·.hasHandle) then
        (venue.server.answer? caller ((venue.activity caller).call index)).toList
      else []
  | _ => []

def Deed.Spares (caller : ClientId) : Deed → Prop
  | .act (.abandon other _) => other ≠ caller
  | .act (.dropHandle other) => other ≠ caller
  | _ => True

def Deed.Elsewhere (caller : ClientId) : Deed → Prop
  | .act (.proceed other _) => other ≠ caller
  | _ => True

structure Rests (caller : ClientId) (before after : Venue) : Prop where
  seated : ∀ seat, before.server.seat? caller = some seat → ∃ kept,
    after.server.seat? caller = some kept ∧ kept.session = seat.session ∧
      kept.hasHandle = seat.hasHandle
  activity : after.activity caller = before.activity caller
  asked : Server.asked caller before.server after.server = []

variable {venue after : Venue} {caller other : ClientId} {seat : Seat} {deed : Deed}

theorem rests_of_seat (same : after.server.seat? caller = venue.server.seat? caller)
    (activity : after.activity caller = venue.activity caller)
    (asked : Server.asked caller venue.server after.server = []) : Rests caller venue after :=
  ⟨fun seat found => ⟨seat, same.trans found, rfl, rfl⟩, activity, asked⟩

theorem rests_of_same (seats : after.server.seats = venue.server.seats)
    (activity : after.activity caller = venue.activity caller)
    (queued : after.server.queued = venue.server.queued) : Rests caller venue after :=
  rests_of_seat (congrArg (List.find? _) seats) activity (asked_of_queued queued)

theorem rests_withSeat {act : Seat → Venue}
    (rests : ∀ seat, venue.server.seat? other = some seat → Rests caller venue (act seat)) :
    Rests caller venue (venue.withSeat other act) := by
  unfold withSeat
  split
  · exact rests_of_same rfl rfl rfl
  · rename_i seat filtered
    exact rests seat (Option.filter_eq_some_iff.mp filtered).1

theorem activity_setActivity_ne (venue : Venue) (activity : Activity) (apart : other ≠ caller) :
    (venue.setActivity other activity).activity caller = venue.activity caller :=
  if_neg (Ne.symm apart)

theorem rests_openWith {opens : Option (Session × Server)}
    (joins : ∀ session opened, opens = some (session, opened) →
      session.id ≠ caller ∧ opened.seat? caller = venue.server.seat? caller ∧
        opened.queued = venue.server.queued) : Rests caller venue (venue.openWith opens) := by
  cases opens with
  | none => exact rests_of_same rfl rfl rfl
  | some result =>
      obtain ⟨session, opened⟩ := result
      obtain ⟨apart, seat, queued⟩ := joins session opened rfl
      exact rests_of_seat seat (activity_setActivity_ne { venue with server := opened } _ apart)
        (asked_of_queued queued)

-- Nobody who is seated is new.
theorem newcomer_apart {user room : String} {session : Session} {opened : Server}
    (orderly : venue.server.Orderly) (found : venue.server.seat? caller = some seat)
    (created : venue.server.newSession? user room = some (session, opened)) :
    session.id ≠ caller := by
  rintro rfl
  have known := orderly.seat_known found
  rw [(newSession?_some created).1] at known
  exact Nat.lt_irrefl _ known

theorem rests_openSessionIn {user room : String} (orderly : venue.server.Orderly)
    (found : venue.server.seat? caller = some seat) :
    Rests caller venue (venue.openWith (venue.server.openSessionIn? user room)) := by
  refine rests_openWith fun session opened opens => ?_
  obtain ⟨⟨created, server⟩, fresh, same⟩ := Option.map_eq_some_iff.mp opens
  have apart : session.id ≠ caller := by
    cases same
    exact newcomer_apart orderly found fresh
  exact ⟨apart, seat?_openSessionIn? opens caller apart.symm, openSessionIn?_queued opens⟩

-- A second call is refused while one that changes the room is in progress.
theorem begin?_of_busy {first : Move} {rest moves : List Move} (wish : Wish) :
    (Activity.exclusive (first :: rest)).begin? moves wish = none := by
  cases wish <;> rfl

theorem rests_begin {first : Move} {rest : List Move} (now : Timestamp) (wish : Wish)
    (busy : venue.activity caller = .exclusive (first :: rest)) :
    Rests caller venue (venue.begin other now wish) := by
  refine rests_withSeat fun seat found => ?_
  split
  · exact rests_of_same rfl rfl rfl
  · rename_i begun begins
    have apart : other ≠ caller := by
      rintro rfl
      rw [busy, begin?_of_busy] at begins
      contradiction
    exact rests_of_same rfl (activity_setActivity_ne venue begun apart) rfl

theorem rests_proceed (index : Nat) (apart : other ≠ caller) :
    Rests caller venue (venue.proceed other index) := by
  refine rests_withSeat fun seat found => ?_
  dsimp only
  split
  · exact rests_of_same rfl rfl rfl
  · rename_i room rest call
    refine rests_of_seat ?_ (activity_setActivity_ne _ _ apart) (asked_of_queued ?_)
    · change (venue.server.enterRoom other room).seat? caller = _
      rw [Server.enterRoom, found]
      dsimp only
      rw [seat?_replaced found (by exact (seat_listed found).1), if_neg apart]
    · change (venue.server.enterRoom other room).queued = _
      rw [Server.enterRoom, found]
      rfl
  · rename_i command rest call
    split
    · rename_i accepted taken
      obtain ⟨_, queued, _, seats, _⟩ := offer_ok taken
      refine rests_of_seat (congrArg (List.find? _) seats) (activity_setActivity_ne _ _ apart) ?_
      exact (asked_of_offer queued).trans (if_neg apart)
    · exact rests_of_same rfl rfl rfl
    · exact rests_of_same rfl (activity_setActivity_ne venue _ apart) rfl

theorem rests_turn {visit : Visit} {now : Timestamp} {turn : Turn} {turned : Server}
    (orderly : venue.server.Orderly) (found : venue.server.seat? caller = some seat)
    (taken : venue.server.turn? visit now turn = some turned) :
    Rests caller venue { venue with server := turned } := by
  refine rests_of_seat (congrArg (List.find? _) (turn?_seats taken)) rfl ?_
  cases turn with
  | hub =>
      obtain ⟨loop, advanced, rfl⟩ := Option.map_eq_some_iff.mp taken
      exact (turn_unmoved (Loop.turns_of_turn? advanced) caller).asked
  | task owner =>
      obtain ⟨console, listed, task⟩ := Option.bind_eq_some_iff.mp taken
      rcases taskTurn?_queued task with queued | ⟨command, tasks, first, queued⟩
      · exact asked_of_queued queued
      · refine (asked_of_offer queued).trans (if_neg ?_)
        rintro rfl
        rw [(console_listed listed).1, orderly.no_seat listed] at found
        contradiction
  | line owner =>
      obtain ⟨console, _, line⟩ := Option.bind_eq_some_iff.mp taken
      obtain ⟨read, _, rfl⟩ := Option.map_eq_some_iff.mp line
      exact asked_of_queued (advanceConsole_undisturbed _ _).queued
  | event owner =>
      obtain ⟨console, _, event⟩ := Option.bind_eq_some_iff.mp taken
      unfold eventTurn? at event
      split at event
      · cases event
        exact asked_of_queued (advanceConsole_undisturbed _ _).queued
      · contradiction
      · cases event
        exact asked_of_queued (advanceConsole_undisturbed _ _).queued

theorem rests_dropHandle (apart : other ≠ caller) :
    Rests caller venue (venue.dropHandle other) := by
  refine rests_withSeat fun seat found => ?_
  unfold Server.dropHandle
  split
  · rename_i there filtered
    obtain ⟨listed, -⟩ := Option.filter_eq_some_iff.mp filtered
    refine rests_of_seat ?_ (activity_setActivity_ne _ _ apart) (asked_of_queued rfl)
    have self : ({ there with hasHandle := false } : Seat).session.id = other :=
      (seat_listed listed).1
    have replaced := seat?_replaced listed self caller
    rw [if_neg apart] at replaced
    exact replaced
  · exact rests_of_same rfl (activity_setActivity_ne venue _ apart) rfl

-- Who lets go of an inbox keeps the session.
theorem rests_dropInbox (venue : Venue) (owner caller : ClientId) :
    Rests caller venue { venue with server := venue.server.dropInbox owner } := by
  unfold Server.dropInbox
  split
  · rename_i there filtered
    obtain ⟨listed, -⟩ := Option.filter_eq_some_iff.mp filtered
    have self : ({ there with hasInbox := false } : Seat).session.id = owner :=
      (seat_listed listed).1
    have replaced := seat?_replaced listed self caller
    refine ⟨fun seat found => ?_, rfl, asked_of_queued rfl⟩
    by_cases here : owner = caller
    · subst here
      cases listed.symm.trans found
      rw [if_pos rfl] at replaced
      exact ⟨_, replaced, rfl, rfl⟩
    · rw [if_neg here] at replaced
      exact ⟨seat, replaced.trans found, rfl, rfl⟩
  · exact rests_of_same rfl rfl rfl

theorem rests_attend {mode : Terminal.Mode} {sink : Terminal.Sink} {now : Timestamp}
    {first : Move} {rest : List Move}
    (busy : venue.activity caller = .exclusive (first :: rest)) :
    Rests caller venue (venue.perform (.attend other mode sink now)) := by
  rw [perform]
  split
  · rename_i idle
    have apart : other ≠ caller := by
      rintro rfl
      rw [busy] at idle
      contradiction
    unfold Server.attend
    split
    · exact rests_of_same rfl rfl rfl
    · exact rests_of_seat ((seat?_without venue.server other caller).trans (if_neg apart)) rfl
        (asked_of_queued rfl)
  · exact rests_of_same rfl rfl rfl

/-- A call that changes the room is left alone by all that its caller does not do itself. -/
theorem perform_rests {first : Move} {rest : List Move} (orderly : venue.server.Orderly)
    (found : venue.server.seat? caller = some seat)
    (busy : venue.activity caller = .exclusive (first :: rest)) (spared : deed.Spares caller)
    (elsewhere : deed.Elsewhere caller) : Rests caller venue (venue.perform deed) := by
  cases deed with
  | attend owner mode sink now => exact rests_attend busy
  | act act =>
      cases act with
      | openSession user room => exact rests_openSessionIn orderly found
      | openSessionIn user room => exact rests_openSessionIn orderly found
      | openConsole user room mode sink now =>
          refine rests_openWith fun session opened opens => ?_
          obtain ⟨⟨created, server⟩, fresh, same⟩ := Option.map_eq_some_iff.mp opens
          cases same
          exact ⟨newcomer_apart orderly found fresh, (newSession?_found fresh _).1,
            (newSession?_some fresh).2.2.1⟩
      | begin owner now wish => exact rests_begin now wish busy
      | proceed owner index => exact rests_proceed index elsewhere
      | abandon owner index =>
          exact rests_withSeat fun _ _ =>
            rests_of_same rfl (activity_setActivity_ne venue _ spared) rfl
      | turn visit now turn =>
          change Rests caller venue
            { venue with server := (venue.server.turn? visit now turn).getD venue.server }
          cases taken : venue.server.turn? visit now turn with
          | none => exact rests_of_same rfl rfl rfl
          | some turned => exact rests_turn orderly found taken
      | poll owner =>
          rw [perform]
          split
          · exact rests_of_same rfl rfl rfl
          · exact rests_of_same rfl rfl rfl
      | dropHandle owner => exact rests_dropHandle spared
      | dropInbox owner => exact rests_dropInbox venue owner caller
      | feed owner octets =>
          change Rests caller venue { venue with server := venue.server.feed owner octets }
          unfold Server.feed
          split <;> exact rests_of_same rfl rfl rfl
      | endInput owner =>
          change Rests caller venue { venue with server := venue.server.endInput owner }
          unfold Server.endInput
          split <;> exact rests_of_same rfl rfl rfl
      | stop => exact rests_of_same rfl rfl rfl

/-! ## The moves -/

/-- How far a change of room has come: what is left of it, what the session has become, and what the
hub has taken. -/
inductive Switching (session : Session) (room : String) :
    List Move → Session → List Command → Prop where
  | leaving : Switching session room
      [.send .disconnect, .enter room, .send (.connect session.user room)] session []
  | entering : Switching session room
      [.enter room, .send (.connect session.user room)] session [.disconnect]
  | joining : Switching session room
      [.send (.connect session.user room)] (session.enter room) [.disconnect]

/-- How a change of room is over: the hub has taken both requests, or it was gone before the first
or the second. -/
inductive Switched (session : Session) (room : String) :
    Except SessionError Unit → Session → List Command → Prop where
  | joined : Switched session room (.ok ()) (session.enter room)
      [.disconnect, .connect session.user room]
  | stayed : Switched session room (.error .hubGone) session []
  | stranded : Switched session room (.error .hubGone) (session.enter room) [.disconnect]

def MidSwitch (venue : Venue) (caller : ClientId) (session : Session) (room : String)
    (taken : List Command) : Prop :=
  ∃ seat moves current, venue.server.seat? caller = some seat ∧ seat.hasHandle = true ∧
    venue.activity caller = .exclusive moves ∧ seat.session = current ∧
      Switching session room moves current taken

variable {session : Session} {room : String} {moves rest : List Move} {taken : List Command}
  {command : Command} {index : Nat} {answer : Except SessionError Unit}

theorem Switching.more {current : Session}
    (switching : Switching session room moves current taken) :
    ∃ first rest, moves = first :: rest := by
  cases switching <;> exact ⟨_, _, rfl⟩

-- Who is answered would be answered the same by the program, however long it waited.
theorem carryOut_of_answered (visit : Visit) (now : Timestamp)
    (answers : answered caller venue (.act (.proceed caller index)) = [answer]) :
    (venue.server.carryOut visit now caller ((venue.activity caller).call index)).2 = answer := by
  simp only [answered] at answers
  split at answers
  · exact carryOut_of_answer visit now (Option.toList_eq_singleton_iff.mp answers)
  · contradiction

theorem answered_of_proceed (found : venue.server.seat? caller = some seat)
    (held : seat.hasHandle = true) (busy : venue.activity caller = .exclusive moves) :
    answered caller venue (.act (.proceed caller index)) =
      (venue.server.answer? caller moves).toList := by
  simp [answered, found, held, busy, Activity.call]

-- What a caller's next request does: it is taken, it waits, or it finds the hub gone.
theorem proceed_of_send (index : Nat) (found : venue.server.seat? caller = some seat)
    (held : seat.hasHandle = true)
    (busy : venue.activity caller = .exclusive (.send command :: rest)) :
    let after := venue.perform (.act (.proceed caller index))
    (after = venue ∧ venue.server.answer? caller (.send command :: rest) = none ∧
      asked caller venue (.act (.proceed caller index)) = []) ∨
    (venue.server.offer caller command = .error .closed ∧
      after = venue.setActivity caller (.exclusive []) ∧
      asked caller venue (.act (.proceed caller index)) = []) ∨
    ∃ accepted, venue.server.offer caller command = .ok accepted ∧
      after = { venue with server := accepted }.setActivity caller (.exclusive rest) ∧
      asked caller venue (.act (.proceed caller index)) = [command] := by
  intro after
  have call : (venue.activity caller).call index = .send command :: rest := by
    rw [busy]
    rfl
  have performs : after = venue.proceed caller index := rfl
  cases offered : venue.server.offer caller command with
  | ok accepted =>
      have proceeds := proceed_send found held call offered
      rw [busy] at proceeds
      refine Or.inr (Or.inr ⟨accepted, rfl, performs.trans proceeds, ?_⟩)
      obtain ⟨_, queued, _⟩ := offer_ok offered
      rw [asked]
      change Server.asked caller venue.server (venue.proceed caller index).server = _
      rw [proceeds]
      exact (asked_of_offer queued).trans (if_pos rfl)
  | error reason =>
      have silent (same : venue.proceed caller index = venue ∨
          venue.proceed caller index = venue.setActivity caller (.exclusive [])) :
          asked caller venue (.act (.proceed caller index)) = [] := by
        apply asked_of_queued
        change (venue.proceed caller index).server.queued = _
        rcases same with same | same
        · rw [same]
        · rw [same]
          rfl
      cases reason with
      | full =>
          have waits : venue.proceed caller index = venue := by
            rw [proceed, withSeat_of_found _ found held]
            simp only [call, offered]
          exact Or.inl ⟨performs.trans waits, by simp [answer?, offered], silent (Or.inl waits)⟩
      | closed =>
          have ends : venue.proceed caller index = venue.setActivity caller (.exclusive []) := by
            rw [proceed, withSeat_of_found _ found held]
            simp only [call, offered]
            rw [busy]
            rfl
          exact Or.inr (Or.inl ⟨rfl, performs.trans ends, silent (Or.inr ends)⟩)

theorem activity_setActivity_self (venue : Venue) (id : ClientId) (activity : Activity) :
    (venue.setActivity id activity).activity id = activity :=
  if_pos rfl

theorem seat?_of_accepted {server accepted : Server} (found : server.seat? caller = some seat)
    (offered : server.offer other command = .ok accepted) : accepted.seat? caller = some seat := by
  obtain ⟨_, _, _, seats, _⟩ := offer_ok offered
  rw [Server.seat?, seats]
  exact found

/-- A move of the caller that is not the last leaves the change of room where the next is due. -/
theorem proceed_midSwitch (mid : venue.MidSwitch caller session room taken)
    (unanswered : answered caller venue (.act (.proceed caller index)) = []) :
    (venue.perform (.act (.proceed caller index))).MidSwitch caller session room
      (taken ++ asked caller venue (.act (.proceed caller index))) := by
  obtain ⟨seat, moves, current, found, held, busy, self, switching⟩ := mid
  rw [answered_of_proceed found held busy, Option.toList_eq_nil_iff] at unanswered
  have sends {rest : List Move} {command : Command} (mine : moves = .send command :: rest)
      (next : ∀ accepted, venue.server.offer caller command = .ok accepted →
        Switching session room rest current (taken ++ [command])) :
      (venue.perform (.act (.proceed caller index))).MidSwitch caller session room
        (taken ++ asked caller venue (.act (.proceed caller index))) := by
    subst mine
    rcases proceed_of_send index found held busy with
      ⟨same, -, silent⟩ | ⟨gone, -, -⟩ | ⟨accepted, offered, moved, asks⟩
    · rw [same, silent, List.append_nil]
      exact ⟨seat, _, current, found, held, busy, self, switching⟩
    · simp [answer?, gone] at unanswered
    · rw [moved, asks]
      exact ⟨seat, rest, current, seat?_of_accepted found offered, held,
        activity_setActivity_self _ caller _, self, next accepted offered⟩
  cases switching with
  | leaving => exact sends rfl fun _ _ => .entering
  | joining =>
      refine sends rfl fun accepted offered => ?_
      simp [answer?, offered] at unanswered
  | entering =>
      subst self
      have call : (venue.activity caller).call index =
          .enter room :: [.send (.connect seat.session.user room)] := by
        rw [busy]
        rfl
      have proceeds : venue.perform (.act (.proceed caller index)) = _ :=
        proceed_enter found held call
      have entered : venue.server.enterRoom caller room =
          venue.server.setSeat { seat with session := seat.session.enter room } := by
        rw [Server.enterRoom, found]
      have silent : asked caller venue (.act (.proceed caller index)) = [] := by
        rw [asked, proceeds, entered]
        exact asked_of_queued rfl
      rw [silent, proceeds, entered, busy]
      exact ⟨_, _, _, seat?_setSeat found (seat_listed found).1, held,
        activity_setActivity_self _ caller _, rfl, .joining⟩

/-- Whatever is done, a change of room that is not given up and not over goes on. -/
theorem perform_midSwitch (orderly : venue.server.Orderly)
    (mid : venue.MidSwitch caller session room taken) (spared : deed.Spares caller)
    (unanswered : answered caller venue deed = []) :
    (venue.perform deed).MidSwitch caller session room (taken ++ asked caller venue deed) := by
  by_cases own : ∃ index, deed = .act (.proceed caller index)
  · obtain ⟨index, rfl⟩ := own
    exact proceed_midSwitch mid unanswered
  · obtain ⟨seat, moves, current, found, held, busy, self, switching⟩ := mid
    obtain ⟨first, rest, rfl⟩ := switching.more
    have elsewhere : deed.Elsewhere caller := by
      unfold Deed.Elsewhere
      split
      · rintro rfl
        exact own ⟨_, rfl⟩
      · trivial
    have rests := perform_rests orderly found busy spared elsewhere
    obtain ⟨kept, there, session, handle⟩ := rests.seated seat found
    rw [show asked caller venue deed = [] from rests.asked, List.append_nil]
    exact ⟨kept, _, current, there, handle.trans held, rests.activity.trans busy,
      session.trans self, switching⟩

theorem play_midSwitch (deeds : List Deed) (orderly : venue.server.Orderly)
    (mid : venue.MidSwitch caller session room taken)
    (spared : ∀ deed ∈ deeds, deed.Spares caller)
    (unanswered : gather (answered caller) venue deeds = []) :
    (venue.play deeds).MidSwitch caller session room
      (taken ++ gather (asked caller) venue deeds) := by
  induction deeds generalizing venue taken with
  | nil => simpa [gather] using mid
  | cons deed rest ih =>
      obtain ⟨first, later⟩ := List.append_eq_nil_iff.mp unanswered
      obtain ⟨spares, spared⟩ := List.forall_mem_cons.mp spared
      rw [play_cons, gather, ← List.append_assoc]
      exact ih (perform_orderly deed orderly) (perform_midSwitch orderly mid spares first) spared
        later

theorem begin_midSwitch (found : venue.server.seat? caller = some seat)
    (held : seat.hasHandle = true) (idle : (venue.activity caller).isIdle = true)
    (now : Timestamp) (room : String) :
    (venue.perform (.act (.begin caller now (.switchRoom room)))).MidSwitch caller seat.session
      room [] := by
  have begins : venue.perform (.act (.begin caller now (.switchRoom room))) =
      venue.setActivity caller
        (.exclusive (seat.session.moves now (.switchRoom room))) := by
    change venue.begin caller now (.switchRoom room) = _
    rw [begin, withSeat_of_found _ found held]
    simp [Activity.begin?, idle]
  rw [begins]
  exact ⟨seat, _, _, found, held, activity_setActivity_self _ caller _, rfl, .leaving⟩

/-- The move that is answered ends the change of room in one of three ways. -/
theorem switched_of_answer (mid : venue.MidSwitch caller session room taken)
    (answers : answered caller venue (.act (.proceed caller index)) = [answer]) :
    ∃ left, (venue.perform (.act (.proceed caller index))).server.seat? caller = some left ∧
      ((venue.perform (.act (.proceed caller index))).activity caller).isIdle = true ∧
      Switched session room answer left.session
        (taken ++ asked caller venue (.act (.proceed caller index))) ∧
      (∀ reason, answer = .error reason → venue.server.hub.channel.box.isOpen = false ∧
        (venue.perform (.act (.proceed caller index))).server = venue.server) := by
  obtain ⟨seat, moves, current, found, held, busy, self, switching⟩ := mid
  rw [answered_of_proceed found held busy, Option.toList_eq_singleton_iff] at answers
  have idle (venue : Venue) :
      ((venue.setActivity caller (.exclusive [])).activity caller).isIdle = true := by
    rw [activity_setActivity_self]
    rfl
  cases switching with
  | entering => simp [answer?] at answers
  | leaving =>
      rcases proceed_of_send index found held busy with
        ⟨-, goesOn, -⟩ | ⟨gone, ended, silent⟩ | ⟨accepted, offered, -, -⟩
      · rw [goesOn] at answers
        contradiction
      · obtain rfl : .error .hubGone = answer := by simpa [answer?, gone] using answers
        rw [ended, silent]
        exact ⟨seat, found, idle venue, self ▸ .stayed, fun _ _ => ⟨shut_of_closed gone, rfl⟩⟩
      · simp [answer?, offered] at answers
  | joining =>
      rcases proceed_of_send index found held busy with
        ⟨-, goesOn, -⟩ | ⟨gone, ended, silent⟩ | ⟨accepted, offered, ended, asks⟩
      · rw [goesOn] at answers
        contradiction
      · obtain rfl : .error .hubGone = answer := by simpa [answer?, gone] using answers
        rw [ended, silent]
        exact ⟨seat, found, idle venue, self ▸ .stranded, fun _ _ => ⟨shut_of_closed gone, rfl⟩⟩
      · obtain rfl : .ok () = answer := by simpa [answer?, offered] using answers
        rw [ended, asks]
        exact ⟨seat, seat?_of_accepted found offered, idle _, self ▸ .joined, nofun⟩

/-- How a change of room comes out, whatever else goes on, however long each request has to wait and
whenever the hub stops. If it succeeds, the session is in the new room and the hub has taken from it
to leave and then to join that room, and nothing else in the meantime. If it fails, the hub is gone;
either it took neither of the two requests, and the session is as it was, or it took the first and
stopped before it took the second, and the session is already in the new room. -/
theorem switch_comes_out (config : Config) (start : Venue) (before during : List Deed)
    (caller : ClientId) (seat : Seat) (now : Timestamp) (room : String) (index : Nat)
    (answer : Except SessionError Unit) (started : start? config = some start)
    (seated : (start.play before).server.seat? caller = some seat)
    (held : seat.hasHandle = true) (idle : ((start.play before).activity caller).isIdle = true)
    (spared : ∀ deed ∈ during, deed.Spares caller) :
    let called := (start.play before).perform (.act (.begin caller now (.switchRoom room)))
    let move : Deed := .act (.proceed caller index)
    gather (answered caller) called during = [] →
    answered caller (called.play during) move = [answer] →
    let after := called.play (during ++ [move])
    let taken := gather (asked caller) called (during ++ [move])
    (after.activity caller).isIdle = true ∧
    (∀ visit now, ((called.play during).server.carryOut visit now caller
      (((called.play during).activity caller).call index)).2 = answer) ∧
    ∃ left, after.server.seat? caller = some left ∧
      (answer = .ok () → left.session = seat.session.enter room ∧
        taken = [.disconnect, .connect seat.session.user room]) ∧
      ∀ reason, answer = .error reason →
        reason = .hubGone ∧ after.server.hub.phase = .finished ∧
          ((taken = [] ∧ left.session = seat.session) ∨
            (taken = [.disconnect] ∧ left.session = seat.session.enter room)) := by
  intro called move unanswered answers after taken
  have orderly : called.server.Orderly :=
    perform_orderly _ (play_orderly before (start_orderly started))
  have staged : (called.play during).server.Staged :=
    play_staged during (perform_staged _ (play_staged before (start_staged started).1))
  have mid := play_midSwitch during orderly (begin_midSwitch seated held idle now room) spared
    unanswered
  obtain ⟨left, there, ended, switched, failed⟩ := switched_of_answer mid answers
  have last : after = (called.play during).perform move := by
    rw [show after = called.play (during ++ [move]) from rfl, play_append, play_cons, play_nil]
  have took : taken =
      [] ++ gather (asked caller) called during ++ asked caller (called.play during) move := by
    simp [taken, gather_append, gather]
  rw [last, took]
  refine ⟨ended, fun visit now => carryOut_of_answered visit now answers, left, there, ?_, ?_⟩
  · rintro rfl
    generalize left.session = final at switched ⊢
    generalize [] ++ gather (asked caller) called during ++ _ = whole at switched ⊢
    cases switched with
    | joined => exact ⟨rfl, rfl⟩
  · rintro reason rfl
    obtain ⟨shut, same⟩ := failed reason rfl
    have finished := same ▸ staged.finished shut
    generalize left.session = final at switched ⊢
    generalize [] ++ gather (asked caller) called during ++ _ = whole at switched ⊢
    cases switched with
    | stayed => exact ⟨rfl, finished, Or.inl ⟨rfl, rfl⟩⟩
    | stranded => exact ⟨rfl, finished, Or.inr ⟨rfl, rfl⟩⟩

-- The hub has room for one request, so that ann has to wait before she can join.
theorem switch_comes_out_of_small_mailbox :
    let now : Timestamp := ⟨0, 0, by decide, by decide, by decide⟩
    let config : Config := ⟨"general", 20, 1, 64⟩
    let ann : ClientId := ⟨2⟩
    let seat : Seat := ⟨⟨ann, "ann", "general"⟩, true, true⟩
    let hub : Deed := .act (.turn .enrolled now .hub)
    let move : Deed := .act (.proceed ann 0)
    let start : Venue :=
      ⟨⟨config, ⟨Service.create config, ⟨⟨1, [], true⟩, 1⟩, .scheduled, .armed⟩, [], [], 2⟩,
        fun _ => .shared []⟩
    let before : List Deed :=
      [.act (.openSession "ann" ""), .act (.begin ann now .connect), move, hub, hub]
    let called := (start.play before).perform (.act (.begin ann now (.switchRoom "rust")))
    let during : List Deed := [move, move, move, hub]
    start? config = some start ∧ (start.play before).server.seat? ann = some seat ∧
      seat.hasHandle = true ∧ ((start.play before).activity ann).isIdle = true ∧
      (∀ deed ∈ during, deed.Spares ann) ∧ gather (answered ann) called during = [] ∧
      answered ann (called.play during) move = [.ok ()] ∧
      ∃ left, (called.play (during ++ [move])).server.seat? ann = some left ∧
        left.session = seat.session.enter "rust" ∧
        gather (asked ann) called (during ++ [move]) = [.disconnect, .connect "ann" "rust"] := by
  intro now config ann seat hub move start before called during
  have seated : (start.play before).server.seat? ann = some seat := by decide +kernel
  have idle : ((start.play before).activity ann).isIdle = true := by decide +kernel
  have spared : ∀ deed ∈ during, deed.Spares ann := by simp [during, move, hub, Deed.Spares]
  have unanswered : gather (answered ann) called during = [] := by
    decide +kernel
  have answers : answered ann (called.play during) move = [.ok ()] := by
    decide +kernel
  obtain ⟨-, -, left, there, well, -⟩ := switch_comes_out config start before during ann seat now
    "rust" 0 (.ok ()) rfl seated rfl idle spared unanswered answers
  obtain ⟨moved, taken⟩ := well rfl
  exact ⟨rfl, seated, rfl, idle, spared, unanswered, answers, left, there, moved, taken⟩

-- The hub is told to stop when it has taken that ann leaves: the change of room fails, and she is
-- in the new room all the same.
theorem switch_fails_in_new_room :
    let now : Timestamp := ⟨0, 0, by decide, by decide, by decide⟩
    let config : Config := .default
    let ann : ClientId := ⟨2⟩
    let seat : Seat := ⟨⟨ann, "ann", "general"⟩, true, true⟩
    let hub : Deed := .act (.turn .enrolled now .hub)
    let move : Deed := .act (.proceed ann 0)
    let start : Venue := ⟨Server.unoccupied config, fun _ => .shared []⟩
    let before : List Deed :=
      [.act (.openSession "ann" ""), .act (.begin ann now .connect), move, hub, hub]
    let called := (start.play before).perform (.act (.begin ann now (.switchRoom "rust")))
    let during : List Deed := [move, move, .act .stop, hub]
    let after := called.play (during ++ [move])
    start? config = some start ∧ (start.play before).server.seat? ann = some seat ∧
      (∀ deed ∈ during, deed.Spares ann) ∧ gather (answered ann) called during = [] ∧
      answered ann (called.play during) move = [.error .hubGone] ∧
      ∃ left, after.server.seat? ann = some left ∧ left.session.room = "rust" ∧
        left.session.room ≠ seat.session.room := by
  intro now config ann seat hub move start before called during after
  have there : after.server.seat? ann = some ⟨⟨ann, "ann", "rust"⟩, true, true⟩ := by
    decide +kernel
  exact ⟨rfl, by decide +kernel, by simp [during, move, hub, Deed.Spares], by decide +kernel,
    by decide +kernel, _, there, rfl, by decide⟩

end Venue
end ChatRooms
