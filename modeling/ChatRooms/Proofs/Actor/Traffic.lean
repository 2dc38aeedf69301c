import ChatRooms.Proofs.Actor.Advance

/-! A task among those that send to it. Any number of senders hold a copy of the address each, may
make further copies and let go of theirs, and put messages in with or without waiting for room; the
task takes its turns in between, and may be told to stop at any time. What was called on the actor
is written down, and so is what every sender was answered. -/
namespace ChatRooms

variable {σ μ : Type}

inductive Invocation (μ : Type) where
  | start
  | handle (message : μ)
  | stop
  deriving DecidableEq, Repr

def Invocation.message? : Invocation μ → Option μ
  | .handle message => some message
  | _ => none

def Invocation.messages (calls : List (Invocation μ)) : List μ :=
  calls.filterMap message?

def Actor.logged (actor : Actor σ μ) : Actor (σ × List (Invocation μ)) μ where
  start known := (actor.start known.1, known.2 ++ [.start])
  handle known message := (actor.handle known.1 message, known.2 ++ [.handle message])
  stop known := (actor.stop known.1, known.2 ++ [.stop])
  discard known message := (actor.discard known.1 message, known.2)

def Actor.invoke (actor : Actor σ μ) (state : σ) : Invocation μ → σ
  | .start => actor.start state
  | .handle message => actor.handle state message
  | .stop => actor.stop state

namespace Loop

def bare (loop : Loop (σ × List (Invocation μ)) μ) : Loop σ μ :=
  ⟨loop.state.1, loop.channel, loop.phase, loop.signal⟩

theorem foldl_discard_logged (actor : Actor σ μ) (lost : List μ)
    (known : σ × List (Invocation μ)) :
    lost.foldl actor.logged.discard known = (lost.foldl actor.discard known.1, known.2) := by
  induction lost generalizing known with
  | nil => rfl
  | cons message rest ih => exact ih _

theorem bare_finish (actor : Actor σ μ) (loop : Loop (σ × List (Invocation μ)) μ) :
    (loop.finish actor.logged).bare = loop.bare.finish actor := by
  simp only [finish, close, bare, foldl_discard_logged]
  rfl

-- Nothing is different for the task when what it does is written down.
theorem turn?_logged (actor : Actor σ μ) (loop : Loop (σ × List (Invocation μ)) μ) :
    (loop.turn? actor.logged).map bare = loop.bare.turn? actor := by
  have finishes := bare_finish actor loop
  obtain ⟨state, channel, phase, signal⟩ := loop
  cases phase with
  | running =>
      by_cases raised : signal = .raised
      · simpa [turn?, bare, raised] using finishes
      · cases found : channel.receive with
        | mk receipt left =>
            cases receipt with
            | message content => simp [turn?, bare, raised, found, Actor.logged]
            | empty => simp [turn?, bare, raised, found]
            | disconnected => simpa [turn?, bare, raised, found] using finishes
  | _ => rfl

end Loop

def Phase.isOver : Phase → Bool
  | .finished | .dropped => true
  | _ => false

structure Answer (μ : Type) where
  sender : Nat
  message : μ
  result : Except MailboxError Unit

def Answer.taken? (answer : Answer μ) : Option (Nat × μ) :=
  match answer.result with
  | .ok () => some (answer.sender, answer.message)
  | .error _ => none

/-- `waiting` is what a sender has in hand while it waits for room, `begun` what the senders set out
to send. -/
structure Traffic (σ μ : Type) where
  loop : Loop (σ × List (Invocation μ)) μ
  senders : List Nat
  nextSender : Nat
  waiting : Nat → Option μ
  begun : List (Nat × μ)
  answers : List (Answer μ)

namespace Traffic

inductive Act (μ : Type) where
  | share (sender : Nat)
  | letGo (sender : Nat)
  | tell (sender : Nat) (message : μ)
  | retry (sender : Nat)
  | giveUp (sender : Nat)
  | tryTell (sender : Nat) (message : μ)
  | schedule (stoppable : Bool)
  | drop
  | raiseStop
  | turn

def create? (state : σ) (capacity : Nat) : Option (Traffic σ μ) :=
  (Loop.create? (state, []) capacity).map fun loop => ⟨loop, [0], 1, fun _ => none, [], []⟩

variable {actor : Actor σ μ} {traffic : Traffic σ μ} {capacity : Nat}

def log (traffic : Traffic σ μ) : List (Invocation μ) :=
  traffic.loop.state.2

def handled (traffic : Traffic σ μ) : List μ :=
  Invocation.messages traffic.log

def queue (traffic : Traffic σ μ) : List μ :=
  traffic.loop.channel.box.queue

def accepted (traffic : Traffic σ μ) : List (Nat × μ) :=
  traffic.answers.filterMap Answer.taken?

def ofSender (sender : Nat) (sent : List (Nat × μ)) : List μ :=
  (sent.filter (·.1 = sender)).map (·.2)

def isFree (traffic : Traffic σ μ) (sender : Nat) : Bool :=
  sender ∈ traffic.senders && (traffic.waiting sender).isNone

def wait (traffic : Traffic σ μ) (sender : Nat) (message : Option μ) : Traffic σ μ :=
  { traffic with
    waiting := fun other => if other = sender then message else traffic.waiting other }

def begin (traffic : Traffic σ μ) (sender : Nat) (message : μ) : Traffic σ μ :=
  { traffic with begun := traffic.begun ++ [(sender, message)] }

def answer (traffic : Traffic σ μ) (sender : Nat) (message : μ)
    (result : Except MailboxError Unit) : Traffic σ μ :=
  { traffic.wait sender none with
    answers := traffic.answers ++ [⟨sender, message, result⟩] }

def put (traffic : Traffic σ μ) (sender : Nat) (message : μ) (waits : Bool) : Traffic σ μ :=
  match traffic.loop.offer message with
  | .ok loop => { traffic with loop }.answer sender message (.ok ())
  | .error .closed => traffic.answer sender message (.error .closed)
  | .error .full =>
      if waits then traffic.wait sender (some message)
      else traffic.answer sender message (.error .full)

def step (actor : Actor σ μ) (traffic : Traffic σ μ) : Act μ → Traffic σ μ
  | .share sender =>
      if sender ∈ traffic.senders then
        { traffic with
          loop := { traffic.loop with channel := traffic.loop.channel.addAddress }
          senders := traffic.senders ++ [traffic.nextSender]
          nextSender := traffic.nextSender + 1 }
      else traffic
  | .letGo sender =>
      if traffic.isFree sender then
        { traffic with
          loop := { traffic.loop with channel := traffic.loop.channel.dropAddress }
          senders := traffic.senders.erase sender }
      else traffic
  | .tell sender message =>
      if traffic.isFree sender then (traffic.begin sender message).put sender message true
      else traffic
  | .retry sender =>
      match traffic.waiting sender with
      | some message => traffic.put sender message true
      | none => traffic
  | .giveUp sender => traffic.wait sender none
  | .tryTell sender message =>
      if traffic.isFree sender then (traffic.begin sender message).put sender message false
      else traffic
  | .schedule stoppable =>
      if traffic.loop.phase = .made then
        { traffic with loop := traffic.loop.schedule (if stoppable then .armed else .none) }
      else traffic
  | .drop =>
      if traffic.loop.phase = .made then
        { traffic with loop := traffic.loop.drop actor.logged }
      else traffic
  | .raiseStop =>
      if traffic.loop.signal = .armed then { traffic with loop := traffic.loop.raiseStop }
      else traffic
  | .turn =>
      match traffic.loop.turn? actor.logged with
      | some loop => { traffic with loop }
      | none => traffic

def run (actor : Actor σ μ) (traffic : Traffic σ μ) (acts : List (Act μ)) : Traffic σ μ :=
  acts.foldl (step actor) traffic

@[simp] theorem run_nil : traffic.run actor [] = traffic := rfl

theorem run_append (before after : List (Act μ)) :
    traffic.run actor (before ++ after) = (traffic.run actor before).run actor after :=
  List.foldl_append

/-! ## What is true of it at any time -/

def calls (handled : List μ) : Phase → List (Invocation μ)
  | .running => .start :: handled.map .handle
  | .finished => .start :: handled.map .handle ++ [.stop]
  | _ => []

def outcome (actor : Actor σ μ) (initial : σ) (log : List (Invocation μ)) (lost : List μ) : σ :=
  lost.foldl actor.discard (log.foldl actor.invoke initial)

structure Sound (actor : Actor σ μ) (initial : σ) (capacity : Nat) (traffic : Traffic σ μ) :
    Prop where
  sized : traffic.loop.channel.box.capacity = capacity
  bounded : traffic.queue.length ≤ capacity
  counted : traffic.loop.channel.addresses = traffic.senders.length
  serving : traffic.loop.channel.box.isOpen = !traffic.loop.phase.isOver
  emptied : traffic.loop.phase.isOver = true → traffic.queue = []
  called : traffic.log = calls traffic.handled traffic.loop.phase
  accounted : ∃ lost, traffic.accepted.map (·.2) = traffic.handled ++ lost ++ traffic.queue ∧
    (traffic.loop.phase.isOver = false → lost = []) ∧
    traffic.loop.state.1 = outcome actor initial traffic.log lost
  inTurn : ∀ sender, (ofSender sender traffic.accepted ++ (traffic.waiting sender).toList).Sublist
    (ofSender sender traffic.begun)

variable {initial : σ}

@[simp] theorem ofSender_nil (sender : Nat) : ofSender sender ([] : List (Nat × μ)) = [] := rfl

@[simp] theorem ofSender_append (sender : Nat) (first second : List (Nat × μ)) :
    ofSender sender (first ++ second) = ofSender sender first ++ ofSender sender second := by
  simp [ofSender]

@[simp] theorem ofSender_self (sender : Nat) (message : μ) :
    ofSender sender [(sender, message)] = [message] := by
  simp [ofSender]

theorem ofSender_other {sender other : Nat} (message : μ) (different : other ≠ sender) :
    ofSender other [(sender, message)] = [] := by
  simp [ofSender, different.symm]

@[simp] theorem accepted_wait (sender : Nat) (message : Option μ) :
    (traffic.wait sender message).accepted = traffic.accepted := rfl

@[simp] theorem accepted_begin (sender : Nat) (message : μ) :
    (traffic.begin sender message).accepted = traffic.accepted := rfl

@[simp] theorem accepted_refused (sender : Nat) (message : μ) (reason : MailboxError) :
    (traffic.answer sender message (.error reason)).accepted = traffic.accepted := by
  simp [accepted, answer, Traffic.wait, Answer.taken?]

@[simp] theorem accepted_taken (sender : Nat) (message : μ) :
    (traffic.answer sender message (.ok ())).accepted = traffic.accepted ++ [(sender, message)] := by
  simp [accepted, answer, Traffic.wait, Answer.taken?]

@[simp] theorem begun_wait (sender : Nat) (message : Option μ) :
    (traffic.wait sender message).begun = traffic.begun := rfl

@[simp] theorem begun_begin (sender : Nat) (message : μ) :
    (traffic.begin sender message).begun = traffic.begun ++ [(sender, message)] := rfl

@[simp] theorem begun_answer (sender : Nat) (message : μ) (result : Except MailboxError Unit) :
    (traffic.answer sender message result).begun = traffic.begun := rfl

@[simp] theorem waiting_wait (sender other : Nat) (message : Option μ) :
    (traffic.wait sender message).waiting other =
      if other = sender then message else traffic.waiting other := rfl

@[simp] theorem waiting_answer (sender other : Nat) (message : μ)
    (result : Except MailboxError Unit) :
    (traffic.answer sender message result).waiting other =
      if other = sender then none else traffic.waiting other := rfl

theorem create?_sound (created : create? initial capacity = some traffic) :
    traffic.Sound actor initial capacity := by
  obtain ⟨loop, made, rfl⟩ := Option.map_eq_some_iff.mp created
  obtain ⟨channel, opened, rfl⟩ := Option.map_eq_some_iff.mp made
  obtain ⟨box, admitted, rfl⟩ := Option.map_eq_some_iff.mp opened
  unfold Mailbox.create? at admitted
  split at admitted
  · cases admitted
    exact ⟨rfl, Nat.zero_le _, rfl, rfl, fun _ => rfl, rfl, ⟨[], rfl, fun _ => rfl, rfl⟩,
      fun _ => List.Sublist.refl _⟩
  · contradiction

theorem Sound.wait (sound : traffic.Sound actor initial capacity) (sender : Nat)
    (message : Option μ)
    (due : (ofSender sender traffic.accepted ++ message.toList).Sublist
      (ofSender sender traffic.begun)) :
    (traffic.wait sender message).Sound actor initial capacity := by
  refine { sound with inTurn := fun other => ?_ }
  by_cases same : other = sender
  · subst same
    simpa using due
  · simpa [same] using sound.inTurn other

theorem Sound.begin (sound : traffic.Sound actor initial capacity) {sender : Nat}
    (free : traffic.isFree sender = true) (message : μ) :
    (traffic.begin sender message).Sound actor initial capacity ∧
      (ofSender sender (traffic.begin sender message).accepted ++ [message]).Sublist
        (ofSender sender (traffic.begin sender message).begun) := by
  have idle : traffic.waiting sender = none := by
    simpa [isFree] using (Bool.and_eq_true_iff.mp free).2
  have before : (ofSender sender traffic.accepted).Sublist (ofSender sender traffic.begun) := by
    simpa [idle] using sound.inTurn sender
  refine ⟨{ sound with inTurn := fun other => ?_ }, ?_⟩
  · exact (sound.inTurn other).trans (by simp)
  · simpa using before

theorem Sound.refuse (sound : traffic.Sound actor initial capacity) (sender : Nat) (message : μ)
    (reason : MailboxError) :
    (traffic.answer sender message (.error reason)).Sound actor initial capacity := by
  have before : (ofSender sender traffic.accepted).Sublist (ofSender sender traffic.begun) :=
    (List.sublist_append_left _ _).trans (sound.inTurn sender)
  have waited := sound.wait sender none (by simpa using before)
  refine { sound with accounted := ?_, inTurn := fun other => ?_ }
  · rw [accepted_refused]
    exact sound.accounted
  · rw [accepted_refused]
    exact waited.inTurn other

theorem Sound.accept (sound : traffic.Sound actor initial capacity) {sender : Nat} {message : μ}
    (opened : traffic.loop.channel.box.isOpen = true)
    (room : traffic.loop.channel.box.queue.length < traffic.loop.channel.box.capacity)
    (due : (ofSender sender traffic.accepted ++ [message]).Sublist
      (ofSender sender traffic.begun)) :
    ({ traffic with loop := traffic.loop.queueing message }.answer sender message
      (.ok ())).Sound actor initial capacity := by
  have goesOn : traffic.loop.phase.isOver = false := by
    simpa [opened] using sound.serving
  obtain ⟨lost, kept, nothing, state⟩ := sound.accounted
  refine { sound with
    bounded := ?_, emptied := ?_, accounted := ⟨lost, ?_, nothing, state⟩, inTurn := ?_ }
  · change (traffic.queue ++ [message]).length ≤ capacity
    rw [← sound.sized, List.length_append]
    exact room
  · intro finished
    exact absurd (goesOn.symm.trans finished) (by simp)
  · rw [accepted_taken]
    change (traffic.accepted ++ _).map _ = traffic.handled ++ lost ++ (traffic.queue ++ [message])
    rw [List.map_append, kept]
    simp
  · intro other
    rw [accepted_taken, waiting_answer, begun_answer]
    change (ofSender other (traffic.accepted ++ _) ++ _).Sublist (ofSender other traffic.begun)
    by_cases same : other = sender
    · subst same
      simpa using due
    · simpa [same, ofSender_other message same] using sound.inTurn other

theorem Sound.put (sound : traffic.Sound actor initial capacity) {sender : Nat} {message : μ}
    (due : (ofSender sender traffic.accepted ++ [message]).Sublist
      (ofSender sender traffic.begun)) (waits : Bool) :
    (traffic.put sender message waits).Sound actor initial capacity := by
  rcases traffic.loop.offer_cases message with ⟨-, closed⟩ | ⟨opened, room, taken⟩ | ⟨-, -, full⟩
  · simp only [Traffic.put, closed]
    exact sound.refuse sender message .closed
  · simp only [Traffic.put, taken]
    exact sound.accept opened room due
  · simp only [Traffic.put, full]
    cases waits with
    | true => exact sound.wait sender (some message) (by simpa using due)
    | false => exact sound.refuse sender message .full

theorem outcome_call (log : List (Invocation μ)) (call : Invocation μ) :
    outcome actor initial (log ++ [call]) [] = actor.invoke (outcome actor initial log []) call := by
  simp [outcome]

theorem Sound.start (sound : traffic.Sound actor initial capacity)
    (scheduled : traffic.loop.phase = .scheduled) :
    ({ traffic with loop := { traffic.loop with
        state := actor.logged.start traffic.loop.state, phase := .running } } :
      Traffic σ μ).Sound actor initial capacity := by
  obtain ⟨lost, kept, nothing, state⟩ := sound.accounted
  have called := sound.called
  have serving := sound.serving
  rw [scheduled] at called serving nothing
  obtain rfl := nothing rfl
  have silent : traffic.handled = [] := by
    rw [handled, called]
    rfl
  have log : traffic.log ++ [.start] = calls [] .running := by
    rw [called]
    rfl
  refine { sound with
    serving := serving, emptied := ?_, called := ?_,
    accounted := ⟨[], ?_, fun _ => rfl, ?_⟩ }
  · intro finished
    cases finished
  · change _ = calls (Invocation.messages (traffic.log ++ [.start])) .running
    rw [log]
    exact log
  · change _ = Invocation.messages (traffic.log ++ [.start]) ++ [] ++ traffic.queue
    rw [log]
    rw [silent] at kept
    exact kept
  · exact (congrArg actor.start state).trans (outcome_call _ .start).symm

theorem Sound.handle (sound : traffic.Sound actor initial capacity) {message : μ} {rest : List μ}
    (running : traffic.loop.phase = .running)
    (queued : traffic.loop.channel.box.queue = message :: rest) :
    ({ traffic with loop := { traffic.loop with
        state := actor.logged.handle traffic.loop.state message
        channel := { traffic.loop.channel with
          box := { traffic.loop.channel.box with queue := rest } } } } :
      Traffic σ μ).Sound actor initial capacity := by
  obtain ⟨lost, kept, nothing, state⟩ := sound.accounted
  have goesOn : traffic.loop.phase.isOver = false := by rw [running]; rfl
  obtain rfl := nothing goesOn
  have handled : Invocation.messages (traffic.log ++ [.handle message]) =
      traffic.handled ++ [message] := List.filterMap_append
  refine { sound with
    bounded := ?_, emptied := fun finished => ?_, called := ?_,
    accounted := ⟨[], ?_, fun _ => rfl, ?_⟩ }
  · have bounded := sound.bounded
    rw [queue, queued] at bounded
    exact Nat.le_of_succ_le bounded
  · exact absurd (goesOn.symm.trans finished) (by simp)
  · change _ = calls (Invocation.messages (traffic.log ++ [.handle message])) traffic.loop.phase
    have called := sound.called
    rw [running] at called ⊢
    rw [handled]
    change traffic.log ++ [.handle message] = _
    rw [called]
    simp [calls]
  · change traffic.accepted.map _ = Invocation.messages (traffic.log ++ [.handle message]) ++ [] ++ rest
    rw [handled, kept, queue, queued]
    simp
  · exact (congrArg (actor.handle · message) state).trans (outcome_call _ (.handle message)).symm

theorem log_finish (traffic : Traffic σ μ) :
    ({ traffic with loop := traffic.loop.finish actor.logged } : Traffic σ μ).log =
      traffic.log ++ [.stop] :=
  congrArg Prod.snd (Loop.foldl_discard_logged actor traffic.queue _)

theorem handled_finish (traffic : Traffic σ μ) :
    ({ traffic with loop := traffic.loop.finish actor.logged } : Traffic σ μ).handled =
      traffic.handled := by
  rw [handled, log_finish, Invocation.messages, List.filterMap_append]
  exact List.append_nil _

theorem Sound.finish (sound : traffic.Sound actor initial capacity)
    (running : traffic.loop.phase = .running) :
    ({ traffic with loop := traffic.loop.finish actor.logged } :
      Traffic σ μ).Sound actor initial capacity := by
  obtain ⟨lost, kept, nothing, state⟩ := sound.accounted
  obtain rfl := nothing (by rw [running]; rfl)
  refine { sound with
    bounded := Nat.zero_le _, serving := rfl, emptied := fun _ => rfl, called := ?_,
    accounted := ⟨traffic.queue, ?_, ?_, ?_⟩ }
  · rw [log_finish, handled_finish, sound.called, running]
    rfl
  · rw [handled_finish]
    change traffic.accepted.map _ = traffic.handled ++ traffic.queue ++ []
    rw [kept]
    simp
  · intro goesOn
    cases goesOn
  · rw [log_finish]
    refine (congrArg Prod.fst (Loop.foldl_discard_logged actor traffic.queue _)).trans ?_
    exact congrArg (traffic.queue.foldl actor.discard)
      ((congrArg actor.stop state).trans (outcome_call _ .stop).symm)

end Traffic
end ChatRooms
