import ChatRooms.Proofs.Server.Forecast
import ChatRooms.Proofs.Terminal.Happening

/-! A session and the hub in accord. A change of room takes three moves, and between them the
session and the registry differ; what holds throughout is that the queued requests end in agreement,
and that nothing but absence can come of them while the new room is yet to be noted. -/
namespace ChatRooms

namespace Session

def home (config : Config) (session : Session) : String :=
  if session.room.isEmpty then config.defaultRoom else session.room

def fits (config : Config) (session : Session) (member : Member) : Bool :=
  member.handle = session.id && member.name = session.user && member.room = session.home config

def Honest (session : Session) (command : Command) : Prop :=
  ∀ user room, command = .connect user room → user = session.user ∧ room = session.room

end Session

/-- What a call can have left to do. Before the room changes the session is as good as absent. -/
inductive Underway (session : Session) (absent : Prop) : List Move → Prop where
  | finished : Underway session absent []
  | sending (command : Command) (honest : session.Honest command) :
      Underway session absent [.send command]
  | leaving (room : String) :
      Underway session absent [.send .disconnect, .enter room, .send (.connect session.user room)]
  | entering (room : String) (gone : absent) :
      Underway session absent [.enter room, .send (.connect session.user room)]

def Proper (session : Session) (absent : Prop) : Activity → Prop
  | .shared calls => ∀ call ∈ calls, ∃ command, session.Honest command ∧ call = [.send command]
  | .exclusive call => Underway session absent call

/-- The session will find itself registered as it believes, or not at all. -/
structure Accords (config : Config) (server : Server) (session : Session)
    (activity : Activity) : Prop where
  foretold : Foretold (session.fits config) server.registry server.queued session.id
  proper : Proper session
    (Foretold (fun _ => false) server.registry server.queued session.id) activity

variable {config : Config} {server after : Server} {session : Session} {activity : Activity}
  {absent : Prop} {index : Nat}

theorem Underway.mono {moves : List Move} {gone : Prop} (implied : absent → gone)
    (underway : Underway session absent moves) : Underway session gone moves := by
  cases underway with
  | finished => exact .finished
  | sending command honest => exact .sending command honest
  | leaving room => exact .leaving room
  | entering room left => exact .entering room (implied left)

theorem Proper.mono {gone : Prop} (implied : absent → gone)
    (proper : Proper session absent activity) : Proper session gone activity := by
  cases activity with
  | shared calls => exact proper
  | exclusive call => exact Underway.mono implied proper

theorem honest_of_other {command : Command} (other : ∀ user room, command ≠ .connect user room) :
    session.Honest command :=
  fun user room same => absurd same (other user room)

-- A wish is one send, or a change of room.
theorem moves_of_wish (session : Session) (now : Timestamp) (wish : Wish) :
    (∃ room, wish = .switchRoom room) ∨
      ∃ command, session.Honest command ∧ session.moves now wish = [.send command] := by
  cases wish with
  | switchRoom room => exact Or.inl ⟨room, rfl⟩
  | connect =>
      refine Or.inr ⟨_, ?_, rfl⟩
      rintro user room same
      cases same
      exact ⟨rfl, rfl⟩
  | disconnect | post | postTo | direct | listUsers =>
      exact Or.inr ⟨_, honest_of_other (by simp), rfl⟩

theorem underway_of_wish (session : Session) (now : Timestamp) (wish : Wish) :
    Underway session absent (session.moves now wish) := by
  rcases moves_of_wish session now wish with ⟨room, rfl⟩ | ⟨command, honest, same⟩
  · exact .leaving room
  · rw [same]
    exact .sending command honest

theorem proper_of_begin {now : Timestamp} {wish : Wish} {begun : Activity}
    (proper : Proper session absent activity)
    (begins : activity.begin? (session.moves now wish) wish = some begun) :
    Proper session absent begun := by
  rcases moves_of_wish session now wish with ⟨room, rfl⟩ | ⟨command, honest, same⟩
  · simp only [Activity.begin?] at begins
    split at begins
    · cases begins
      exact underway_of_wish session now _
    · contradiction
  · have single : ∀ call ∈ [session.moves now wish],
        ∃ command, session.Honest command ∧ call = [.send command] := by
      intro call listed
      rw [List.mem_singleton] at listed
      exact ⟨command, honest, listed.trans same⟩
    unfold Activity.begin? at begins
    split at begins
    · simp [Session.moves] at same
    · cases begins
      intro call listed
      rcases List.mem_append.mp listed with earlier | new
      · exact proper call earlier
      · exact single call new
    · cases begins
      exact single
    · contradiction

theorem Proper.finish {gone : Prop} (proper : Proper session absent activity) (index : Nat) :
    Proper session gone (activity.leave index []) := by
  cases activity with
  | shared calls => exact fun call listed => proper call (List.mem_of_mem_eraseIdx listed)
  | exclusive call => exact Underway.finished

theorem mem_of_call {calls : List (List Move)} {first : Move} {rest : List Move}
    (next : (Activity.shared calls).call index = first :: rest) : first :: rest ∈ calls := by
  simp only [Activity.call, List.getD_eq_getElem?_getD] at next
  cases found : calls[index]? with
  | none => simp [found] at next
  | some call =>
      simp only [found, Option.getD_some] at next
      exact next ▸ List.mem_of_getElem? found

-- Only the first part of a change of room leaves something to do after a send.
theorem Proper.send {command : Command} {rest : List Move}
    (proper : Proper session absent activity)
    (next : activity.call index = .send command :: rest) :
    (rest = [] ∧ session.Honest command) ∨
      (command = .disconnect ∧ ∃ room call, activity = .exclusive call ∧
        rest = [.enter room, .send (.connect session.user room)]) := by
  cases activity with
  | shared calls =>
      obtain ⟨only, honest, same⟩ := proper _ (mem_of_call next)
      cases same
      exact Or.inl ⟨rfl, honest⟩
  | exclusive call =>
      simp only [Activity.call] at next
      subst next
      cases (proper : Underway _ _ _) with
      | sending _ honest => exact Or.inl ⟨rfl, honest⟩
      | leaving room => exact Or.inr ⟨rfl, room, _, rfl, rfl⟩

theorem Proper.enter {room : String} {rest : List Move} (proper : Proper session absent activity)
    (next : activity.call index = .enter room :: rest) :
    absent ∧ rest = [.send (.connect session.user room)] ∧
      ∃ call, activity = .exclusive call := by
  cases activity with
  | shared calls =>
      obtain ⟨only, _, same⟩ := proper _ (mem_of_call next)
      cases same
  | exclusive call =>
      simp only [Activity.call] at next
      subst next
      cases (proper : Underway _ _ _) with
      | entering _ gone => exact ⟨gone, rfl, _, rfl⟩

theorem fits_of_honest {user room : String} {hub : Hub}
    (defaultRoom : hub.defaultRoom = config.defaultRoom)
    (honest : session.Honest (.connect user room)) :
    session.fits config ⟨session.id, session.id, user, hub.roomOrDefault room⟩ = true := by
  obtain ⟨rfl, rfl⟩ := honest user room rfl
  simp [Session.fits, Session.home, Hub.roomOrDefault, defaultRoom]

-- A session is left in accord by whatever keeps all that is foretold of it.
theorem Accords.frame (accords : Accords config server session activity)
    (keeps : ∀ fits, Foretold fits server.registry server.queued session.id →
      Foretold fits after.registry after.queued session.id) :
    Accords config after session activity :=
  ⟨keeps _ accords.foretold, accords.proper.mono (keeps _)⟩

theorem Accords.sent {command : Command} {rest : List Move}
    (defaultRoom : server.registry.defaultRoom = config.defaultRoom)
    (accords : Accords config server session activity) (index : Nat)
    (next : activity.call index = .send command :: rest)
    (registry : after.registry = server.registry)
    (queued : after.queued = server.queued ++ [⟨session.id, command⟩]) :
    Accords config after session (activity.leave index rest) := by
  rcases accords.proper.send next with ⟨rfl, honest⟩ | ⟨rfl, room, call, rfl, rfl⟩
  · refine ⟨?_, accords.proper.finish index⟩
    rw [registry, queued]
    apply accords.foretold.push_own
    rintro user room rfl
    exact fits_of_honest defaultRoom honest
  -- After its own disconnect the session fits no matter what its room is about to be.
  · constructor
    · rw [registry, queued]
      exact foretold_of_disconnect
    · rw [registry, queued]
      exact Underway.entering room foretold_of_disconnect

-- Noting the new room is harmless, as the session is foretold to be absent.
theorem Accords.entered {room : String} {rest : List Move}
    (accords : Accords config server session activity) (index : Nat)
    (next : activity.call index = .enter room :: rest)
    (registry : after.registry = server.registry) (queued : after.queued = server.queued) :
    Accords config after (session.enter room) (activity.leave index rest) := by
  obtain ⟨gone, rfl, call, rfl⟩ := accords.proper.enter next
  constructor
  · rw [registry, queued]
    exact gone.weaken (by simp)
  · apply Underway.sending
    rintro user room same
    cases same
    exact ⟨rfl, rfl⟩

theorem Accords.finish (accords : Accords config server session activity) (index : Nat) :
    Accords config server session (activity.leave index []) :=
  ⟨accords.foretold, accords.proper.finish index⟩

theorem Accords.undisturbed (undisturbed : Server.Undisturbed server after)
    (accords : Accords config server session activity) :
    Accords config after session activity := by
  apply accords.frame
  intro fits foretold
  rw [undisturbed.registry, undisturbed.queued]
  exact foretold

namespace Terminal

theorem wishTasks_moves (session : Session) (now : Timestamp) (wish : Wish) :
    (wishTasks session now wish).filterMap Task.move? = session.moves now wish := by
  simp [wishTasks, List.filterMap_map, Function.comp_def, Task.move?]

@[simp] theorem writeLine_moves (text : String) :
    (writeLine text).filterMap Task.move? = [] := rfl

@[simp] theorem promptTasks_moves (mode : Mode) :
    (promptTasks mode).filterMap Task.move? = [] := by
  cases mode <;> rfl

theorem leaveTasks_moves (session : Session) (now : Timestamp) :
    (leaveTasks session now).filterMap Task.move? = [.send .disconnect] := rfl

@[simp] theorem eventTasks_moves (session : Session) (event : Event) (mode : Mode) :
    (eventTasks session event mode).filterMap Task.move? = [] := by
  cases mode <;> rfl

theorem create_moves (session : Session) (mode : Mode) (sink : Sink)
    (now : Timestamp) : (Console.create session mode sink now).moves =
      [.send (.connect session.user session.room)] := by
  cases mode <;> rfl

theorem entryTasks_underway (session : Session) (now : Timestamp) (entry : Entry) :
    Underway session absent ((entryTasks session now entry).filterMap Task.move?) := by
  have wished (wish : Wish) :
      Underway session absent ((wishTasks session now wish).filterMap Task.move?) := by
    rw [wishTasks_moves]
    exact underway_of_wish session now wish
  cases entry with
  | blank | quit => exact .finished
  | help => simpa [entryTasks] using Underway.finished
  | say content => exact wished (.post content)
  | users => exact wished .listUsers
  | join room => simpa [entryTasks] using wished (.switchRoom room)
  | direct recipient content => exact wished (.direct recipient content)

-- A line makes a console do no more than one thing to the hub.
theorem lineTasks_underway (session : Session) (mode : Mode) (now : Timestamp) (line : String) :
    Underway session absent ((lineTasks session mode now line).filterMap Task.move?) := by
  unfold lineTasks
  split
  · rw [leaveTasks_moves]
    exact .sending .disconnect (honest_of_other (by simp))
  · rw [List.filterMap_append, promptTasks_moves, List.append_nil]
    exact entryTasks_underway session now _
  · rw [List.filterMap_append, promptTasks_moves, List.append_nil, writeLine_moves]
    exact .finished

-- A console that prints goes on as it was about to, or ends.
theorem emits_moves {console next : Console} {text : String} (emits : console.Emits text next) :
    next.moves = console.moves ∨ next.moves = [] := by
  cases emits with
  | whole => exact Or.inl rfl
  | closed => exact Or.inr rfl

theorem move?_of_text {session : Session} {task : Task} {text : String}
    (prints : task.text? session = some text) : task.move? = none := by
  cases task with
  | move => contradiction
  | write | endLine | prompt | finish => rfl

theorem readLine?_underway {console read : Console} {now : Timestamp}
    (reads : console.readLine? now = some read) :
    read.session = console.session ∧
      ∀ absent, Underway console.session absent read.moves := by
  cases Console.readsTo_of_readLine? reads with
  | ended => exact ⟨rfl, fun _ => .sending .disconnect (honest_of_other (by simp))⟩
  | garbled => exact ⟨rfl, fun _ => .finished⟩
  | line octets rest line =>
      refine ⟨rfl, fun _ => ?_⟩
      dsimp only [Console.moves]
      exact lineTasks_underway console.session console.mode now (stripLineEnd line)

end Terminal
end ChatRooms
