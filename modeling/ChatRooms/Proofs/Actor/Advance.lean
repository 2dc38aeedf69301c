import ChatRooms.Actor.Loop

/-! What one turn of a task can be. It starts the actor, has it handle the oldest message, or stops
it because it was told to or because nobody can send any more; and a task that takes turn after turn
comes to a point where it has to wait. -/
namespace ChatRooms

/-- Where a run first comes to a point, there is one act that brings it there. -/
theorem turning_point {σ α : Type} {step : σ → α → σ} (reached : σ → Prop) (acts : List α)
    {start : σ} (before : ¬reached start) (after : reached (acts.foldl step start)) :
    ∃ early act late, acts = early ++ act :: late ∧ ¬reached (early.foldl step start) ∧
      reached (step (early.foldl step start) act) := by
  induction acts generalizing start with
  | nil => exact absurd after before
  | cons act rest ih =>
      by_cases now : reached (step start act)
      · exact ⟨[], act, rest, rfl, before, now⟩
      · obtain ⟨early, last, late, rfl, still, turned⟩ := ih now after
        exact ⟨act :: early, last, late, rfl, still, turned⟩

namespace Loop

variable {σ μ : Type} {actor : Actor σ μ} {loop next : Loop σ μ}

inductive Advances (actor : Actor σ μ) (loop : Loop σ μ) : Loop σ μ → Prop where
  | start (scheduled : loop.phase = .scheduled) :
      Advances actor loop { loop with state := actor.start loop.state, phase := .running }
  | handle (message : μ) (rest : List μ) (running : loop.phase = .running)
      (untold : loop.signal ≠ .raised) (queued : loop.channel.box.queue = message :: rest) :
      Advances actor loop { loop with
        state := actor.handle loop.state message
        channel := { loop.channel with box := { loop.channel.box with queue := rest } } }
  | finish (running : loop.phase = .running)
      (ended : loop.signal = .raised ∨
        (loop.channel.addresses = 0 ∧ loop.channel.box.queue = [])) :
      Advances actor loop (loop.finish actor)

theorem advances_of_turn? (turned : loop.turn? actor = some next) : loop.Advances actor next := by
  unfold turn? at turned
  split at turned
  · rename_i scheduled
    cases turned
    exact .start scheduled
  · rename_i running
    split at turned
    · rename_i raised
      cases turned
      exact .finish running (Or.inl raised)
    · rename_i untold
      unfold Channel.receive Mailbox.take? at turned
      cases queued : loop.channel.box.queue with
      | nil =>
          by_cases alone : loop.channel.addresses = 0
          · simp only [queued, alone, ↓reduceIte] at turned
            cases turned
            exact .finish running (Or.inr ⟨alone, queued⟩)
          · simp [queued, alone] at turned
      | cons message rest =>
          simp only [queued] at turned
          cases turned
          exact .handle message rest running untold queued
  · contradiction

theorem turn?_of_finish (running : loop.phase = .running)
    (ended : loop.signal = .raised ∨
      (loop.channel.addresses = 0 ∧ loop.channel.box.queue = [])) :
    loop.turn? actor = some (loop.finish actor) := by
  unfold turn?
  rw [running]
  rcases ended with raised | ⟨alone, empty⟩
  · simp [raised]
  · by_cases raised : loop.signal = .raised
    · simp [raised]
    · simp [raised, Channel.receive, Mailbox.take?, empty, alone]

theorem turn?_of_message {message : μ} {rest : List μ} (running : loop.phase = .running)
    (untold : loop.signal ≠ .raised) (queued : loop.channel.box.queue = message :: rest) :
    loop.turn? actor = some { loop with
      state := actor.handle loop.state message
      channel := { loop.channel with box := { loop.channel.box with queue := rest } } } := by
  simp [turn?, running, untold, Channel.receive, Mailbox.take?, queued]

def queueing (loop : Loop σ μ) (message : μ) : Loop σ μ :=
  { loop with channel := { loop.channel with
      box := { loop.channel.box with queue := loop.channel.box.queue ++ [message] } } }

theorem offer_cases (loop : Loop σ μ) (message : μ) :
    (loop.channel.box.isOpen = false ∧ loop.offer message = .error .closed) ∨
    (loop.channel.box.isOpen = true ∧
      loop.channel.box.queue.length < loop.channel.box.capacity ∧
      loop.offer message = .ok (loop.queueing message)) ∨
    (loop.channel.box.isOpen = true ∧
      loop.channel.box.capacity ≤ loop.channel.box.queue.length ∧
      loop.offer message = .error .full) := by
  cases opened : loop.channel.box.isOpen with
  | false => exact Or.inl ⟨rfl, by simp [offer, Channel.offer, Mailbox.offer, opened, Except.map]⟩
  | true =>
      by_cases room : loop.channel.box.queue.length < loop.channel.box.capacity
      · refine Or.inr (Or.inl ⟨rfl, room, ?_⟩)
        simp [offer, Channel.offer, Mailbox.offer, Mailbox.hasRoom, opened, room, Except.map,
          queueing]
      · refine Or.inr (Or.inr ⟨rfl, Nat.le_of_not_lt room, ?_⟩)
        simp [offer, Channel.offer, Mailbox.offer, Mailbox.hasRoom, opened, room, Except.map]

def turnsLeft (loop : Loop σ μ) : Nat :=
  match loop.phase with
  | .scheduled => loop.channel.box.queue.length + 2
  | .running => loop.channel.box.queue.length + 1
  | _ => 0

theorem Advances.turnsLeft (advances : loop.Advances actor next) :
    next.turnsLeft < loop.turnsLeft := by
  cases advances with
  | start scheduled => simp [Loop.turnsLeft, scheduled]
  | handle message rest running untold queued => simp [Loop.turnsLeft, running, queued]
  | finish running ended => simp [Loop.turnsLeft, running, Loop.finish]

theorem turns_wait (count : Nat) (loop : Loop σ μ) (enough : loop.turnsLeft ≤ count) :
    (turns actor count loop).turn? actor = none := by
  induction count generalizing loop with
  | zero =>
      cases turned : loop.turn? actor with
      | none => exact turned
      | some next =>
          have fewer := (advances_of_turn? turned).turnsLeft
          omega
  | succ count ih =>
      unfold turns
      cases turned : loop.turn? actor with
      | none => exact turned
      | some next =>
          have fewer := (advances_of_turn? turned).turnsLeft
          exact ih next (by omega)

/-- A task that was let run has to wait. -/
theorem settle_waits (actor : Actor σ μ) (loop : Loop σ μ) :
    (loop.settle actor).turn? actor = none := by
  apply turns_wait
  unfold turnsLeft
  split <;> omega

end Loop
end ChatRooms
