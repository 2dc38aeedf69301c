import ChatRooms.Proofs.Server.Effect

/-! The schedule of the program is one of the runs. A caller that makes its moves one after the
other and lets everybody else go on while it waits does nothing that a run could not do. -/
namespace ChatRooms

namespace Server

variable {visit : Visit} {now : Timestamp} {server after : Server}

inductive Turned (visit : Visit) (now : Timestamp) : Server → Server → Prop where
  | none (server : Server) : Turned visit now server server
  | next {before middle after : Server} (turn : Turn)
      (taken : before.turn? visit now turn = some middle) (rest : Turned visit now middle after) :
      Turned visit now before after

theorem Turned.trans {first second third : Server} (one : Turned visit now first second)
    (two : Turned visit now second third) : Turned visit now first third := by
  induction one with
  | none => exact two
  | next turn taken _ ih => exact .next turn taken (ih two)

theorem Turned.one (turn : Turn) (taken : server.turn? visit now turn = some after) :
    Turned visit now server after :=
  .next turn taken (.none after)

theorem consoleTurn?_turned {id : ClientId}
    (taken : server.consoleTurn? visit now id = some after) : Turned visit now server after := by
  unfold consoleTurn? at taken
  rcases Option.or_eq_some_iff.mp taken with task | ⟨_, other⟩
  · exact .one _ task
  · rcases Option.or_eq_some_iff.mp other with line | ⟨_, event⟩
    · exact .one _ line
    · exact .one _ event

theorem consoleTurns_turned (id : ClientId) (count : Nat) (server : Server) :
    Turned visit now server (consoleTurns visit now id count server) := by
  induction count generalizing server with
  | zero => exact .none server
  | succ count ih =>
      unfold consoleTurns
      split
      · exact .none server
      · rename_i next taken
        exact (consoleTurn?_turned taken).trans (ih next)

theorem runConsole_turned (server : Server) (id : ClientId) :
    Turned visit now server (server.runConsole visit now id) := by
  unfold runConsole
  split
  · exact .none server
  · exact consoleTurns_turned id _ server

theorem runHub_turned (server : Server) : Turned visit now server (server.runHub visit now) := by
  have hub_turns (count : Nat) (server : Server) : Turned visit now server
      { server with hub := server.hub.turns (Service.actor visit now) count } := by
    induction count generalizing server with
    | zero => exact .none server
    | succ count ih =>
        cases taken : server.hub.turn? (Service.actor visit now) with
        | none =>
            rw [Loop.turns, taken]
            exact .none server
        | some hub =>
            rw [Loop.turns, taken]
            have turned : server.turn? visit now .hub = some { server with hub } := by
              simp [turn?, hubTurn?, taken]
            exact .next .hub turned (ih { server with hub })
  exact hub_turns _ server

theorem runConsoles_turned (ids : List ClientId) (server : Server) :
    Turned visit now server (ids.foldl (runConsole visit now) server) := by
  induction ids generalizing server with
  | nil => exact .none server
  | cons id rest ih => exact (runConsole_turned server id).trans (ih _)

theorem round_turned (server : Server) : Turned visit now server (server.round visit now) :=
  (runHub_turned server).trans (runConsoles_turned _ _)

theorem rounds_turned (count : Nat) (server : Server) :
    Turned visit now server (rounds visit now count server) := by
  induction count generalizing server with
  | zero => exact .none server
  | succ count ih =>
      unfold rounds
      split
      · exact .none server
      · exact (round_turned server).trans (ih _)

theorem settle_turned (server : Server) : Turned visit now server (server.settle visit now) :=
  rounds_turned _ server

theorem taskTurn?_seats {console : Terminal.Console}
    (taken : server.taskTurn? console = some after) : after.seats = server.seats := by
  unfold taskTurn? at taken
  split at taken
  · contradiction
  · rename_i task tasks _
    cases task with
    | write | endLine | prompt | finish =>
        cases taken
        exact advanceConsole_seats _ _
    | move move =>
        cases move with
        | enter room =>
            cases taken
            exact advanceConsole_seats _ _
        | send command =>
            simp only at taken
            split at taken
            · rename_i accepted offered
              obtain ⟨_, _, _, seats, _⟩ := offer_ok offered
              cases taken
              exact (advanceConsole_seats _ _).trans seats
            · contradiction
            · cases taken
              exact advanceConsole_seats _ _

-- Turns are taken by the hub and by consoles, never by a seat.
theorem turn?_seats {turn : Turn} (taken : server.turn? visit now turn = some after) :
    after.seats = server.seats := by
  cases turn with
  | hub =>
      obtain ⟨_, _, rfl⟩ := Option.map_eq_some_iff.mp taken
      rfl
  | task id =>
      obtain ⟨console, _, task⟩ := Option.bind_eq_some_iff.mp taken
      exact taskTurn?_seats task
  | line id =>
      obtain ⟨console, _, line⟩ := Option.bind_eq_some_iff.mp taken
      obtain ⟨_, _, rfl⟩ := Option.map_eq_some_iff.mp line
      exact advanceConsole_seats _ _
  | event id =>
      obtain ⟨console, _, event⟩ := Option.bind_eq_some_iff.mp taken
      unfold eventTurn? at event
      split at event
      · cases event
        exact advanceConsole_seats _ _
      · contradiction
      · cases event
        exact advanceConsole_seats _ _

theorem Turned.seats (turned : Turned visit now server after) : after.seats = server.seats := by
  induction turned with
  | none => rfl
  | next turn taken _ ih => exact ih.trans (turn?_seats taken)

theorem seat?_setSeat {id : ClientId} {seat changed : Seat}
    (found : server.seat? id = some seat) (same : changed.session.id = id) :
    (server.setSeat changed).seat? id = some changed := by
  have kept : ((fun other : Seat => decide (other.session.id = id)) ∘ fun other =>
      if other.session.id = changed.session.id then changed else other) =
        fun other : Seat => decide (other.session.id = id) := by
    funext other
    by_cases hit : other.session.id = id <;> simp [same, hit]
  have self : seat.session.id = id := by simpa using List.find?_some found
  unfold seat? at found ⊢
  rw [setSeat, List.find?_map, kept, found]
  simp [self, same]

end Server

theorem Activity.call_leave {activity : Activity} {index : Nat} {first : Move}
    {rest : List Move} (next : activity.call index = first :: rest) (more : rest ≠ []) :
    (activity.leave index rest).call index = rest := by
  cases activity with
  | exclusive call => rfl
  | shared calls =>
      cases rest with
      | nil => contradiction
      | cons second rest =>
          have inside : index < calls.length := by
            apply Nat.lt_of_not_le
            intro outside
            rw [call, List.getD_eq_getElem?_getD, List.getElem?_eq_none outside] at next
            contradiction
          simp [leave, call, inside]

theorem Activity.call_begin {activity : Activity} {moves : List Move} (wish : Wish)
    (idle : activity.isIdle = true) :
    ∃ begun, activity.begin? moves wish = some begun ∧ begun.call 0 = moves := by
  cases activity with
  | shared calls =>
      have none_yet : calls = [] := by simpa [isIdle] using idle
      subst none_yet
      cases wish <;> exact ⟨_, rfl, rfl⟩
  | exclusive call =>
      have none_left : call = [] := by simpa [isIdle] using idle
      subst none_left
      cases wish <;> exact ⟨_, rfl, rfl⟩

namespace Venue

variable {visit : Visit} {now : Timestamp} {venue : Venue} {id : ClientId} {seat : Seat}

theorem withSeat_of_found (act : Seat → Venue) (found : venue.server.seat? id = some seat)
    (held : seat.hasHandle = true) : venue.withSeat id act = act seat := by
  have filtered : (venue.server.seat? id).filter (·.hasHandle) = some seat :=
    Option.filter_eq_some_iff.mpr ⟨found, held⟩
  rw [withSeat, filtered]

theorem run_of_turned {server after : Server} (activity : ClientId → Activity)
    (turned : Server.Turned visit now server after) :
    ∃ acts, (⟨server, activity⟩ : Venue).run acts = ⟨after, activity⟩ := by
  induction turned with
  | none => exact ⟨[], rfl⟩
  | next turn taken _ ih =>
      obtain ⟨acts, reached⟩ := ih
      refine ⟨.turn visit now turn :: acts, ?_⟩
      rw [run_cons, step, taken]
      exact reached

theorem proceed_enter {index : Nat} {room : String} {rest : List Move}
    (found : venue.server.seat? id = some seat) (held : seat.hasHandle = true)
    (call : (venue.activity id).call index = .enter room :: rest) :
    venue.proceed id index =
      { venue with server := venue.server.enterRoom id room }.setActivity id
        ((venue.activity id).leave index rest) := by
  rw [proceed, withSeat_of_found _ found held]
  simp only [call]

theorem proceed_send {index : Nat} {command : Command} {rest : List Move} {accepted : Server}
    (found : venue.server.seat? id = some seat) (held : seat.hasHandle = true)
    (call : (venue.activity id).call index = .send command :: rest)
    (taken : venue.server.offer id command = .ok accepted) :
    venue.proceed id index =
      { venue with server := accepted }.setActivity id
        ((venue.activity id).leave index rest) := by
  rw [proceed, withSeat_of_found _ found held]
  simp only [call, taken]

-- The moves that are left of a call lead a run where they lead the program.
theorem carryOut_is_run (index : Nat) (moves : List Move) (venue : Venue) (seat : Seat)
    (found : venue.server.seat? id = some seat) (held : seat.hasHandle = true)
    (call : moves ≠ [] → (venue.activity id).call index = moves) :
    ∃ acts, (venue.run acts).server =
      (Server.carryOut visit now id moves venue.server).1 := by
  induction moves generalizing venue seat with
  | nil => exact ⟨[], rfl⟩
  | cons first rest ih =>
      have now_first := call (List.cons_ne_nil _ _)
      have after (server : Server) : rest ≠ [] → (({ venue with server }.setActivity id
          ((venue.activity id).leave index rest)).activity id).call index = rest := by
        intro more
        simpa [setActivity] using Activity.call_leave now_first more
      cases first with
      | enter room =>
          let changed := { seat with session := seat.session.enter room }
          have self : seat.session.id = id := by simpa using List.find?_some found
          have entered : venue.server.enterRoom id room = venue.server.setSeat changed := by
            rw [Server.enterRoom, found]
          have next_found : (venue.server.enterRoom id room).seat? id = some changed := by
            rw [entered]
            exact Server.seat?_setSeat found self
          obtain ⟨acts, reached⟩ := ih _ changed next_found held (after _)
          refine ⟨.proceed id index :: acts, ?_⟩
          rw [run_cons, step, proceed_enter found held now_first]
          exact reached
      | send command =>
          -- Both a send at once and one after waiting go on from the server that accepted it.
          have sends (middle : Server) (seats : middle.seats = venue.server.seats)
              (accepted : Server) (taken : middle.offer id command = .ok accepted) :
              ∃ acts, (({ venue with server := middle } : Venue).run acts).server =
                (Server.carryOut visit now id rest accepted).1 := by
            have middle_found : middle.seat? id = some seat := by
              rw [Server.seat?, seats]
              exact found
            obtain ⟨_, _, _, same, _⟩ := Server.offer_ok taken
            have next_found : accepted.seat? id = some seat := by
              rw [Server.seat?, same, seats]
              exact found
            obtain ⟨acts, reached⟩ := ih _ seat next_found held (after accepted)
            have next : ({ venue with server := middle } : Venue).proceed id index = _ :=
              proceed_send middle_found held now_first taken
            refine ⟨.proceed id index :: acts, ?_⟩
            rw [run_cons, step, next]
            exact reached
          cases answer : venue.server.offer id command with
          | ok accepted =>
              simpa [Server.carryOut, Server.send, answer] using
                sends venue.server rfl accepted answer
          | error reason =>
              cases reason with
              | closed =>
                  refine ⟨[], ?_⟩
                  simp [Server.carryOut, Server.send, answer]
              | full =>
                  have waits : Server.Turned visit now venue.server _ :=
                    Server.settle_turned venue.server
                  obtain ⟨turns, waited⟩ := run_of_turned venue.activity waits
                  simp only [Server.carryOut, Server.send, answer]
                  cases retry : (venue.server.settle visit now).offer id command with
                  | ok accepted =>
                      obtain ⟨acts, reached⟩ := sends _ waits.seats accepted retry
                      refine ⟨turns ++ acts, ?_⟩
                      rw [run_append, waited]
                      exact reached
                  | error _ => exact ⟨turns, congrArg Venue.server waited⟩

/-- A call of the program is a run: the caller begins it and makes its moves, and whenever it has to
wait the others take their turns. -/
theorem call_is_run (visit : Visit) (now : Timestamp) (venue : Venue) (seat : Seat) (wish : Wish)
    (found : venue.server.seat? seat.session.id = some seat) (held : seat.hasHandle = true)
    (idle : (venue.activity seat.session.id).isIdle = true) :
    ∃ acts, (venue.run acts).server = (venue.server.call visit now seat.session wish).1 := by
  obtain ⟨begun, begins, call⟩ := Activity.call_begin wish idle
  have beginning : venue.begin seat.session.id now wish =
      venue.setActivity seat.session.id begun := by
    rw [begin, withSeat_of_found _ found held, begins]
  obtain ⟨acts, reached⟩ := carryOut_is_run 0 (seat.session.moves now wish)
    (venue.setActivity seat.session.id begun) seat found held fun _ => by
      simpa [setActivity] using call
  refine ⟨.begin seat.session.id now wish :: acts, ?_⟩
  rw [run_cons, step, beginning]
  exact reached

end Venue
end ChatRooms
