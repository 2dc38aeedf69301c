import ChatRooms.Demo
import ChatRooms.Proofs.Actor.Advance
import ChatRooms.Proofs.Server.OrderPreservation
import Mathlib.Algebra.GroupWithZero.Nat

/-! The conversation under any schedule. The hub may take a turn whenever it has one, between any
two requests of the users; a user who waits gives up only when the hub has nothing left to do.
Whatever the schedule is, it comes to an end. -/
namespace ChatRooms.Demo

inductive Part where
  | scene (scene : Scene)
  | move (role : Role) (move : Move)
  deriving DecidableEq, Repr

structure Stage where
  server : Server
  todo : List Part
  outcome : Option (Except SessionError Unit)

inductive Cue where
  | hub (visit : Visit) (now : Timestamp)
  | go (now : Timestamp)
  | giveUp (visit : Visit) (now : Timestamp)

namespace Stage

def conclude (stage : Stage) (outcome : Except SessionError Unit) : Stage :=
  { stage with outcome := some outcome }

def go? (cast : Cast) (now : Timestamp) (stage : Stage) : Option Stage :=
  match stage.todo with
  | [] => some (stage.conclude (.ok ()))
  | .scene (.heading _) :: todo => some { stage with todo }
  | .scene (.wish role wish) :: todo =>
      match stage.server.seat? (cast.id role) with
      | none => some (stage.conclude (.error .closed))
      | some seat =>
          some { stage with todo := (seat.session.moves now wish).map (.move role) ++ todo }
  | .scene (.await role) :: todo =>
      match stage.server.seat? (cast.id role) with
      | none => some (stage.conclude (.error .closed))
      | some _ =>
          match stage.server.poll (cast.id role) with
          | (.message _, server) => some { stage with server, todo }
          | (.disconnected, _) => some (stage.conclude (.error .closed))
          | (.empty, _) => none
  | .move role (.enter room) :: todo =>
      some { stage with server := stage.server.enterRoom (cast.id role) room, todo }
  | .move role (.send command) :: todo =>
      match stage.server.offer (cast.id role) command with
      | .ok server => some { stage with server, todo }
      | .error .full => none
      | .error .closed => some (stage.conclude (.error .hubGone))

def waits (cast : Cast) (stage : Stage) : Bool :=
  match stage.todo with
  | .scene (.await role) :: _ => (stage.server.poll (cast.id role)).1 = .empty
  | _ => false

def next? (cast : Cast) (stage : Stage) (cue : Cue) : Option Stage :=
  if stage.outcome.isSome then none
  else match cue with
    | .hub visit now =>
        (stage.server.hubTurn? visit now).map fun server => { stage with server }
    | .go now => stage.go? cast now
    | .giveUp visit now =>
        if stage.waits cast && (stage.server.hubTurn? visit now).isNone then
          some (stage.conclude (.error .timedOut))
        else none

def follow? (cast : Cast) : Stage → List Cue → Option Stage
  | stage, [] => some stage
  | stage, cue :: cues => (stage.next? cast cue).bind fun next => follow? cast next cues

end Stage

def open? (config : Config) : Option (Cast × Stage) := do
  let server ← Server.start? config
  let (cast, server) ← enter? server
  return (cast, ⟨server, script.map .scene, none⟩)

def Part.effort : Part → Nat
  | .scene (.wish _ (.switchRoom _)) => 6
  | .scene (.wish _ _) => 3
  | .scene _ => 1
  | .move _ (.send _) => 2
  | .move _ (.enter _) => 1

namespace Stage

def effort (stage : Stage) : Nat :=
  (stage.todo.map Part.effort).sum + stage.server.hub.turnsLeft +
    if stage.outcome.isSome then 0 else 1

variable {cast : Cast} {stage next : Stage}

theorem moves_effort (session : Session) (now : Timestamp) (role : Role) (wish : Wish) :
    (((session.moves now wish).map (Part.move role)).map Part.effort).sum <
      Part.effort (.scene (.wish role wish)) := by
  cases wish <;> simp [Session.moves, Part.effort]

theorem turnsLeft_of_offer {server accepted : Server} {sender : ClientId} {command : Command}
    (taken : server.offer sender command = .ok accepted) :
    accepted.hub.turnsLeft ≤ server.hub.turnsLeft + 1 := by
  rw [Server.offer_accepted taken]
  unfold Loop.turnsLeft
  cases server.hub.phase <;> simp [Server.queued]

theorem effort_of_turn {visit : Visit} {now : Timestamp} {server : Server}
    (turned : stage.server.hubTurn? visit now = some server) :
    ({ stage with server } : Stage).effort < stage.effort := by
  obtain ⟨hub, advanced, rfl⟩ := Option.map_eq_some_iff.mp turned
  have fewer := (Loop.advances_of_turn? advanced).turnsLeft
  simp only [effort]
  omega

theorem effort_of_conclude (running : stage.outcome = none) (outcome : Except SessionError Unit) :
    (stage.conclude outcome).effort < stage.effort := by
  simp [effort, conclude, running]

theorem effort_of_go {now : Timestamp} (running : stage.outcome = none)
    (goes : stage.go? cast now = some next) : next.effort < stage.effort := by
  unfold go? at goes
  split at goes
  · cases goes
    exact effort_of_conclude running _
  · rename_i shown
    cases goes
    simp [effort, shown, Part.effort]
  · rename_i role wish todo shown
    split at goes
    · cases goes
      exact effort_of_conclude running _
    · rename_i seat found
      cases goes
      have fewer := moves_effort seat.session now role wish
      simp only [effort, shown, List.map_append, List.sum_append, List.map_cons, List.sum_cons]
      omega
  · rename_i role todo shown
    split at goes
    · cases goes
      exact effort_of_conclude running _
    · split at goes
      · rename_i event server arrived
        cases goes
        have same : server.hub.turnsLeft = stage.server.hub.turnsLeft := by
          have looked := congrArg (fun pair => pair.2.hub.turnsLeft) arrived
          exact looked.symm
        simp [effort, shown, same, Part.effort]
      · cases goes
        exact effort_of_conclude running _
      · contradiction
  · rename_i role room todo shown
    cases goes
    have same : (stage.server.enterRoom (cast.id role) room).hub = stage.server.hub := by
      unfold Server.enterRoom
      split <;> rfl
    simp [effort, shown, same, Part.effort]
  · rename_i role command todo shown
    split at goes
    · rename_i server taken
      cases goes
      have more := turnsLeft_of_offer taken
      simp only [effort, shown, List.map_cons, List.sum_cons, Part.effort]
      omega
    · contradiction
    · cases goes
      exact effort_of_conclude running _

/-- Every cue that is followed leaves less to do. -/
theorem effort_of_next {cue : Cue} (follows : stage.next? cast cue = some next) :
    next.effort < stage.effort := by
  unfold next? at follows
  split at follows
  · contradiction
  · rename_i unended
    have running : stage.outcome = none := by simpa using unended
    cases cue with
    | hub visit now =>
        obtain ⟨server, turned, rfl⟩ := Option.map_eq_some_iff.mp follows
        exact effort_of_turn turned
    | go now => exact effort_of_go running follows
    | giveUp visit now =>
        simp only at follows
        split at follows
        · cases follows
          exact effort_of_conclude running _
        · contradiction

/-- So no schedule goes on for ever. -/
theorem length_of_follow {cues : List Cue} (follows : stage.follow? cast cues = some next) :
    cues.length + next.effort ≤ stage.effort := by
  induction cues generalizing stage with
  | nil =>
      cases follows
      simp
  | cons cue cues ih =>
      obtain ⟨middle, first, others⟩ := Option.bind_eq_some_iff.mp follows
      have fewer := effort_of_next first
      have left := ih others
      rw [List.length_cons]
      omega

end Stage
end ChatRooms.Demo
