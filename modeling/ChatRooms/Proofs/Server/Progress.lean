import ChatRooms.Proofs.Server.Projection
import ChatRooms.Proofs.Terminal.Termination

/-! A console whose input has ended comes to its end, as long as the hub serves: it has less to do
after every turn of its own, and if a request of it has to wait, the hub can make room. -/
namespace ChatRooms

namespace Server

open Terminal

variable {server : Server} {id : ClientId} {console : Console}

/-- A hub that is full goes on to its next request. -/
theorem hubTurn_of_full (now : Timestamp) (serving : server.hub.Serving)
    (armed : server.hub.signal = .armed) (running : server.hub.phase = .running)
    (full : server.hub.channel.box.hasRoom = false) :
    ∃ loop, server.turn? .enrolled now .hub = some { server with hub := loop } ∧
      loop.channel.box.queue.length < server.hub.channel.box.queue.length ∧
      loop.Serving ∧ loop.signal = .armed ∧ loop.phase = .running := by
  cases queued : server.hub.channel.box.queue with
  | nil =>
      have none_waits : 0 < server.hub.channel.box.capacity → False := by
        simpa [Mailbox.hasRoom, queued] using full
      exact absurd serving.roomy none_waits
  | cons request rest =>
      let loop : Loop Service Request := { server.hub with
        state := server.hub.state.handle .enrolled now request
        channel := { server.hub.channel with box :=
          { server.hub.channel.box with queue := rest } } }
      have taken : server.hub.turn? (Service.actor .enrolled now) = some loop := by
        simp [Loop.turn?, running, armed, Channel.receive, Mailbox.take?, queued, loop,
          Service.actor]
      refine ⟨loop, ?_, Nat.lt_succ_self _, ?_, armed, running⟩
      · simp [turn?, hubTurn?, taken]
      · exact ⟨serving.awake, serving.opened, serving.roomy, serving.addressed⟩

theorem offer_of_room (sender : ClientId) (command : Command)
    (opened : server.hub.channel.box.isOpen = true)
    (room : server.hub.channel.box.hasRoom = true) :
    ∃ accepted, server.offer sender command = .ok accepted := by
  unfold offer Loop.offer Channel.offer Mailbox.offer
  simp only [opened, room, Bool.not_true, Bool.false_eq_true, ↓reduceIte, Except.map]
  exact ⟨_, rfl⟩

-- A console can do its next task if the hub has room, and read a line if it has nothing to do.
theorem turn_of_console (visit : Visit) (now : Timestamp)
    (found : server.console? id = some console) (running : console.outcome = none)
    (dry : console.inputEnded = true) (opened : server.hub.channel.box.isOpen = true)
    (room : server.hub.channel.box.hasRoom = true) :
    ∃ turn next happening, (turn = .task id ∨ turn = .line id) ∧
      server.turn? visit now turn = some next ∧ Passes server (some (id, happening)) next ∧
      happening.took? = none ∧ happening.supply? = none := by
  cases first : console.tasks with
  | nil =>
      have idle : server.idleConsole? id = some console := by
        simp [idleConsole?, found, Console.hasEnded, running, first]
      have reads : ∃ next, console.readLine? now = some next := by
        unfold Console.readLine?
        rw [dry]
        cases input : nextInput console.pending true with
        | waiting => exact absurd input (nextInput_not_waiting _)
        | ended => exact ⟨_, rfl⟩
        | line octets rest =>
            dsimp only
            split <;> exact ⟨_, rfl⟩
      obtain ⟨next, reads⟩ := reads
      have ready := (idleConsole?_some idle).2
      refine ⟨.line id, server.advanceConsole next, .read, Or.inr rfl, ?_,
        .console _ _ _ _ _ found (.read now next ready reads) rfl, rfl, rfl⟩
      rw [turn?, idle, Option.bind_some, lineTurn?, reads]
      rfl
  | cons task tasks =>
      have taken : ∃ next, server.taskTurn? console = some next := by
        unfold taskTurn?
        rw [first]
        cases task with
        | write | endLine | prompt | finish => exact ⟨_, rfl⟩
        | move move =>
            cases move with
            | enter room => exact ⟨_, rfl⟩
            | send command =>
                obtain ⟨accepted, taken⟩ := offer_of_room console.session.id command opened room
                simp only [taken]
                exact ⟨_, rfl⟩
      obtain ⟨next, taken⟩ := taken
      obtain ⟨happening, passes, silent⟩ := taskTurn_passes found taken
      exact ⟨.task id, next, happening, Or.inl rfl, by rw [turn?, found, Option.bind_some, taken],
        passes, silent⟩

end Server

namespace Venue

open Server Terminal

variable {venue : Venue} {id : ClientId} {console : Console}

def Deed.Urges (id : ClientId) : Deed → Prop
  | .act (.turn _ _ .hub) => True
  | .act (.turn _ _ (.task console)) => console = id
  | .act (.turn _ _ (.line console)) => console = id
  | .act (.feed console _) => console = id
  | .act (.endInput console) => console = id
  | _ => False

theorem play_turn {visit : Visit} {now : Timestamp} {turn : Turn} {server : Server}
    (taken : venue.server.turn? visit now turn = some server) :
    venue.play [.act (.turn visit now turn)] = { venue with server } := by
  change { venue with server := (venue.server.turn? visit now turn).getD venue.server } = _
  rw [taken, Option.getD_some]

def MakesRoom (id : ClientId) (venue : Venue) : Prop :=
  ∃ deeds loop, (∀ deed ∈ deeds, deed.Urges id ∧ deed.supply? id = none) ∧
    venue.play deeds = { venue with server := { venue.server with hub := loop } } ∧
    loop.Serving ∧ loop.signal = .armed ∧ loop.channel.box.hasRoom = true

theorem MakesRoom.turn {now : Timestamp} {loop : Loop Service Request}
    (taken : venue.server.turn? .enrolled now .hub = some { venue.server with hub := loop })
    (makes : MakesRoom id { venue with server := { venue.server with hub := loop } }) :
    venue.MakesRoom id := by
  obtain ⟨deeds, last, urge, played, rest⟩ := makes
  refine ⟨.act (.turn .enrolled now .hub) :: deeds, last, ?_, ?_, rest⟩
  · intro deed listed
    rcases List.mem_cons.mp listed with rfl | later
    · exact ⟨trivial, rfl⟩
    · exact urge deed later
  · have first := play_turn taken
    simp only [play_cons, play_nil] at first
    rw [play_cons, first, played]

/-- The hub comes to have room, by its own turns. -/
theorem room_comes (id : ClientId) (now : Timestamp) (count : Nat) (venue : Venue)
    (few : venue.server.hub.channel.box.queue.length ≤ count)
    (serving : venue.server.hub.Serving) (armed : venue.server.hub.signal = .armed)
    (running : venue.server.hub.phase = .running) : venue.MakesRoom id := by
  induction count generalizing venue with
  | zero =>
      refine ⟨[], venue.server.hub, by simp, rfl, serving, armed, ?_⟩
      have none_waits : venue.server.hub.channel.box.queue.length = 0 := Nat.le_zero.mp few
      simp [Mailbox.hasRoom, none_waits, serving.roomy]
  | succ count ih =>
      cases room : venue.server.hub.channel.box.hasRoom with
      | true => exact ⟨[], venue.server.hub, by simp, rfl, serving, armed, room⟩
      | false =>
          obtain ⟨loop, taken, fewer, still, armed, running⟩ :=
            hubTurn_of_full now serving armed running room
          refine .turn taken (ih _ ?_ still armed running)
          change loop.channel.box.queue.length ≤ count
          omega

/-- The hub starts if it has not, and then comes to have room. -/
theorem room_made (id : ClientId) (now : Timestamp) (serving : venue.server.hub.Serving)
    (armed : venue.server.hub.signal = .armed) : venue.MakesRoom id := by
  rcases serving.awake with scheduled | running
  · let loop : Loop Service Request := { venue.server.hub with phase := .running }
    have taken : venue.server.turn? .enrolled now .hub =
        some { venue.server with hub := loop } := by
      simp [Server.turn?, hubTurn?, Loop.turn?, scheduled, loop, Service.actor]
    exact .turn taken (room_comes id now _ _ (Nat.le_refl _)
      ⟨Or.inr rfl, serving.opened, serving.roomy, serving.addressed⟩ armed rfl)
  · exact room_comes id now _ venue (Nat.le_refl _) serving armed running

/-- A console whose input has ended does something that leaves it less to do. -/
theorem console_goes_on (now : Timestamp) (orderly : venue.server.Orderly)
    (armed : venue.server.hub.signal = .armed)
    (found : venue.server.console? id = some console) (running : console.outcome = none)
    (dry : console.inputEnded = true) :
    ∃ deeds next, (∀ deed ∈ deeds, deed.Urges id ∧ deed.supply? id = none) ∧
      (venue.play deeds).server.console? id = some next ∧
      (venue.play deeds).server.hub.signal = .armed ∧ next.inputEnded = true ∧
      next.toil < console.toil := by
  obtain ⟨deeds, loop, urge, played, serving, still, room⟩ :=
    room_made id now (orderly.serving armed) armed
  have roomy : (venue.play deeds).server.Orderly := play_orderly deeds orderly
  have here : (venue.play deeds).server.console? id = some console := by
    rw [played]
    exact found
  have opened : (venue.play deeds).server.hub.channel.box.isOpen = true := by
    rw [played]
    exact serving.opened
  have has_room : (venue.play deeds).server.hub.channel.box.hasRoom = true := by
    rw [played]
    exact room
  obtain ⟨turn, server, happening, own, taken, passes, untaken, unsupplied⟩ :=
    turn_of_console .enrolled now here running dry opened has_room
  obtain ⟨next, projects⟩ := passes.projects roomy here
  have goes : console.Goes happening next := by
    have reaches := projects.reaches
    rw [atConsole_self] at reaches
    cases reaches with
    | next goes rest =>
        cases rest
        exact goes
  have last := play_turn taken
  refine ⟨deeds ++ [.act (.turn .enrolled now turn)], next, ?_, ?_, ?_, goes.inputEnded dry,
    goes.toil (roomy.settled console (console_listed here).2) untaken unsupplied⟩
  · intro deed listed
    rcases List.mem_append.mp listed with earlier | new
    · exact urge deed earlier
    · rw [List.mem_singleton.mp new]
      rcases own with rfl | rfl <;> exact ⟨rfl, rfl⟩
  · rw [play_append, last]
    exact projects.found
  · rw [play_append, last]
    have before : (venue.play deeds).server.hub.signal = .armed := by
      rw [played]
      exact still
    exact passes.still_armed before

/-- A console whose input has ended comes to its end. -/
theorem console_ends (now : Timestamp) (count : Nat) (venue : Venue) (console : Console)
    (few : console.toil ≤ count) (orderly : venue.server.Orderly)
    (armed : venue.server.hub.signal = .armed)
    (found : venue.server.console? id = some console) (dry : console.inputEnded = true) :
    ∃ deeds next, (∀ deed ∈ deeds, deed.Urges id ∧ deed.supply? id = none) ∧
      (venue.play deeds).server.console? id = some next ∧
      (venue.play deeds).server.hub.signal = .armed ∧ next.hasEnded = true := by
  induction count generalizing venue console with
  | zero =>
      refine ⟨[], console, by simp, found, armed, ?_⟩
      cases outcome : console.outcome with
      | none => exact absurd (Console.toil_pos outcome) (Nat.not_lt_of_le few)
      | some done => simp [Console.hasEnded, outcome]
  | succ count ih =>
      cases outcome : console.outcome with
      | some done => exact ⟨[], console, by simp, found, armed, by simp [Console.hasEnded, outcome]⟩
      | none =>
          obtain ⟨deeds, middle, urge, here, still, still_dry, less⟩ :=
            console_goes_on now orderly armed found outcome dry
          obtain ⟨later, next, urge_later, there, last, ended⟩ :=
            ih (venue.play deeds) middle (by omega) (play_orderly deeds orderly) still here
              still_dry
          refine ⟨deeds ++ later, next, ?_, ?_, ?_, ended⟩
          · intro deed listed
            exact (List.mem_append.mp listed).elim (urge deed) (urge_later deed)
          · rw [play_append]
            exact there
          · rw [play_append]
            exact last

end Venue
end ChatRooms
