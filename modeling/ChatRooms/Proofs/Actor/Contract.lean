import ChatRooms.Actor.Recorder
import ChatRooms.Proofs.Actor.Traffic

/-! What the senders and the actor can rely on, whoever sends what and when. The actor is started
once and stopped once, and handles what was accepted in the order in which it was accepted; every
run has one point at which it ends, and what was not handled by then is lost. -/
namespace ChatRooms.Traffic

variable {σ μ : Type} {actor : Actor σ μ} {traffic : Traffic σ μ} {initial : σ} {capacity : Nat}

theorem Sound.share (sound : traffic.Sound actor initial capacity) (newcomer next : Nat) :
    ({ traffic with
        loop := { traffic.loop with channel := traffic.loop.channel.addAddress }
        senders := traffic.senders ++ [newcomer], nextSender := next } :
      Traffic σ μ).Sound actor initial capacity := by
  refine { sound with counted := ?_ }
  rw [List.length_append, ← sound.counted]
  rfl

theorem Sound.letGo (sound : traffic.Sound actor initial capacity) {sender : Nat}
    (holds : sender ∈ traffic.senders) :
    ({ traffic with
        loop := { traffic.loop with channel := traffic.loop.channel.dropAddress }
        senders := traffic.senders.erase sender } :
      Traffic σ μ).Sound actor initial capacity := by
  refine { sound with counted := ?_ }
  rw [List.length_erase_of_mem holds, ← sound.counted]
  rfl

theorem Sound.drop (sound : traffic.Sound actor initial capacity)
    (made : traffic.loop.phase = .made) :
    ({ traffic with loop := traffic.loop.drop actor.logged } :
      Traffic σ μ).Sound actor initial capacity := by
  obtain ⟨lost, kept, nothing, state⟩ := sound.accounted
  obtain rfl := nothing (by rw [made]; rfl)
  have called := sound.called
  rw [made] at called
  have discarded := Loop.foldl_discard_logged actor traffic.queue traffic.loop.state
  have log : ({ traffic with loop := traffic.loop.drop actor.logged } : Traffic σ μ).log =
      traffic.log := by
    change (traffic.queue.foldl actor.logged.discard traffic.loop.state).2 = _
    rw [discarded]
    rfl
  refine { sound with
    bounded := Nat.zero_le _, serving := rfl, emptied := fun _ => rfl, called := ?_,
    accounted := ⟨traffic.queue, ?_, ?_, ?_⟩ }
  · exact log.trans called
  · rw [handled, log]
    change traffic.accepted.map _ = traffic.handled ++ traffic.queue ++ []
    rw [kept]
    simp
  · intro goesOn
    cases goesOn
  · rw [log]
    exact (congrArg Prod.fst discarded).trans (congrArg (traffic.queue.foldl actor.discard) state)

theorem Sound.step (sound : traffic.Sound actor initial capacity) (act : Act μ) :
    (traffic.step actor act).Sound actor initial capacity := by
  cases act with
  | share sender =>
      simp only [Traffic.step]
      split
      · exact sound.share _ _
      · exact sound
  | letGo sender =>
      simp only [Traffic.step]
      split
      · rename_i free
        exact sound.letGo (of_decide_eq_true (Bool.and_eq_true_iff.mp free).1)
      · exact sound
  | tell sender message =>
      simp only [Traffic.step]
      split
      · rename_i free
        obtain ⟨begun, due⟩ := sound.begin free message
        exact begun.put due true
      · exact sound
  | retry sender =>
      simp only [Traffic.step]
      split
      · rename_i message waits
        have due := sound.inTurn sender
        rw [waits] at due
        exact sound.put due true
      · exact sound
  | giveUp sender =>
      have before : (ofSender sender traffic.accepted).Sublist (ofSender sender traffic.begun) :=
        (List.sublist_append_left _ _).trans (sound.inTurn sender)
      exact sound.wait sender none (by simpa using before)
  | tryTell sender message =>
      simp only [Traffic.step]
      split
      · rename_i free
        obtain ⟨begun, due⟩ := sound.begin free message
        exact begun.put due false
      · exact sound
  | schedule stoppable =>
      simp only [Traffic.step]
      split
      · rename_i made
        obtain ⟨lost, kept, nothing, state⟩ := sound.accounted
        have called := sound.called
        have serving := sound.serving
        rw [made] at called serving nothing
        exact { sound with
          serving := serving, emptied := fun finished => (nomatch finished), called := called,
          accounted := ⟨lost, kept, nothing, state⟩ }
      · exact sound
  | drop =>
      simp only [Traffic.step]
      split
      · rename_i made
        exact sound.drop made
      · exact sound
  | raiseStop =>
      simp only [Traffic.step]
      split
      · exact { sound with }
      · exact sound
  | turn =>
      simp only [Traffic.step]
      split
      · rename_i next turned
        cases Loop.advances_of_turn? turned with
        | start scheduled => exact sound.start scheduled
        | handle message rest running untold queued => exact sound.handle running queued
        | finish running ended => exact sound.finish running
      · exact sound

theorem Sound.run (sound : traffic.Sound actor initial capacity) (acts : List (Act μ)) :
    (traffic.run actor acts).Sound actor initial capacity := by
  induction acts generalizing traffic with
  | nil => exact sound
  | cons act rest ih => exact ih (sound.step act)

/-! ## Its end -/

theorem turn_finishes (running : traffic.loop.phase = .running) :
    (traffic.step actor .turn).loop.phase = .finished ↔
      traffic.loop.signal = .raised ∨
        (traffic.loop.channel.addresses = 0 ∧ traffic.queue = []) := by
  constructor
  · intro finished
    simp only [Traffic.step] at finished
    split at finished
    · rename_i next turned
      cases Loop.advances_of_turn? turned with
      | start scheduled => cases running.symm.trans scheduled
      | handle message rest _ untold queued => cases running.symm.trans finished
      | finish _ ended => exact ended
    · cases running.symm.trans finished
  · intro ended
    simp only [Traffic.step, Loop.turn?_of_finish running ended]
    rfl

theorem step_finish (running : traffic.loop.phase = .running)
    (ended : traffic.loop.signal = .raised ∨
      (traffic.loop.channel.addresses = 0 ∧ traffic.queue = [])) :
    traffic.step actor .turn = { traffic with loop := traffic.loop.finish actor.logged } := by
  simp only [Traffic.step, Loop.turn?_of_finish running ended]

theorem phase_put (sender : Nat) (message : μ) (waits : Bool) :
    (traffic.put sender message waits).loop.phase = traffic.loop.phase := by
  rcases traffic.loop.offer_cases message with ⟨-, closed⟩ | ⟨-, -, taken⟩ | ⟨-, -, full⟩
  · simp only [Traffic.put, closed]
    rfl
  · simp only [Traffic.put, taken]
    rfl
  · simp only [Traffic.put, full]
    cases waits <;> rfl

-- Only a turn brings a task to its end.
theorem of_step_finished {act : Act μ} (finished : (traffic.step actor act).loop.phase = .finished) :
    traffic.loop.phase = .finished ∨ (traffic.loop.phase = .running ∧ act = .turn) := by
  cases act with
  | share sender | letGo sender | raiseStop =>
      simp only [Traffic.step] at finished
      split at finished
      · exact Or.inl finished
      · exact Or.inl finished
  | tell sender message | tryTell sender message =>
      simp only [Traffic.step] at finished
      split at finished
      · rw [phase_put] at finished
        exact Or.inl finished
      · exact Or.inl finished
  | retry sender =>
      simp only [Traffic.step] at finished
      split at finished
      · rw [phase_put] at finished
        exact Or.inl finished
      · exact Or.inl finished
  | giveUp sender => exact Or.inl finished
  | schedule stoppable | drop =>
      simp only [Traffic.step] at finished
      split at finished
      · cases finished
      · exact Or.inl finished
  | turn =>
      simp only [Traffic.step] at finished
      split at finished
      · rename_i next turned
        cases Loop.advances_of_turn? turned with
        | start scheduled => cases finished
        | handle message rest running untold queued => exact Or.inl finished
        | finish running ended => exact Or.inr ⟨running, rfl⟩
      · exact Or.inl finished

theorem put_closed (closed : traffic.loop.channel.box.isOpen = false) (sender : Nat) (message : μ)
    (waits : Bool) :
    traffic.put sender message waits = traffic.answer sender message (.error .closed) := by
  rcases traffic.loop.offer_cases message with ⟨-, refused⟩ | ⟨opened, -⟩ | ⟨opened, -⟩
  · simp only [Traffic.put, refused]
  · cases opened.symm.trans closed
  · cases opened.symm.trans closed

/-- What can still be seen of a task that is over, some time later: what was sent to it in between
was refused. -/
structure Stale (traffic later : Traffic σ μ) : Prop where
  phase : later.loop.phase = traffic.loop.phase
  shut : later.loop.channel.box.isOpen = traffic.loop.channel.box.isOpen
  state : later.loop.state = traffic.loop.state
  refused : ∃ refused, later.answers = traffic.answers ++ refused ∧
    ∀ answer ∈ refused, answer.result = .error .closed

theorem Stale.refl (traffic : Traffic σ μ) : Stale traffic traffic :=
  ⟨rfl, rfl, rfl, [], (List.append_nil _).symm, by simp⟩

theorem Stale.trans {later last : Traffic σ μ} (first : Stale traffic later)
    (second : Stale later last) : Stale traffic last := by
  obtain ⟨some, grown, closed⟩ := first.refused
  obtain ⟨more, grown', closed'⟩ := second.refused
  refine ⟨second.phase.trans first.phase, second.shut.trans first.shut,
    second.state.trans first.state, some ++ more, ?_, ?_⟩
  · rw [grown', grown, List.append_assoc]
  · intro answer found
    rcases List.mem_append.mp found with early | late
    · exact closed answer early
    · exact closed' answer late

theorem Stale.accepted {later : Traffic σ μ} (stale : Stale traffic later) :
    later.accepted = traffic.accepted := by
  obtain ⟨refused, grown, closed⟩ := stale.refused
  have nothing : refused.filterMap Answer.taken? = [] := by
    refine List.filterMap_eq_nil_iff.mpr fun answer found => ?_
    simp [Answer.taken?, closed answer found]
  rw [Traffic.accepted, grown, List.filterMap_append, nothing, List.append_nil]
  rfl

theorem stale_put (closed : traffic.loop.channel.box.isOpen = false) (sender : Nat) (message : μ)
    (waits : Bool) : Stale traffic (traffic.put sender message waits) := by
  rw [put_closed closed]
  exact ⟨rfl, rfl, rfl, [⟨sender, message, .error .closed⟩], rfl, by simp⟩

theorem turn?_of_over {loop : Loop σ μ} (finished : loop.phase.isOver = true) :
    loop.turn? actor = none := by
  cases phase : loop.phase <;> simp_all [Phase.isOver, Loop.turn?]

theorem step_stale (finished : traffic.loop.phase.isOver = true)
    (closed : traffic.loop.channel.box.isOpen = false) (act : Act μ) :
    Stale traffic (traffic.step actor act) := by
  have begun : ∀ sender message waits,
      Stale traffic ((traffic.begin sender message).put sender message waits) := by
    intro sender message waits
    have ready : (traffic.begin sender message).loop.channel.box.isOpen = false := closed
    obtain ⟨phase, shut, state, refused⟩ := stale_put ready sender message waits
    exact ⟨phase, shut, state, refused⟩
  have notMade : traffic.loop.phase ≠ .made := by
    rintro made
    rw [made] at finished
    cases finished
  cases act with
  | share sender | letGo sender | raiseStop =>
      simp only [Traffic.step]
      split
      · exact ⟨rfl, rfl, rfl, [], (List.append_nil _).symm, by simp⟩
      · exact Stale.refl traffic
  | tell sender message | tryTell sender message =>
      simp only [Traffic.step]
      split
      · exact begun _ _ _
      · exact Stale.refl traffic
  | retry sender =>
      simp only [Traffic.step]
      split
      · exact stale_put closed _ _ _
      · exact Stale.refl traffic
  | giveUp sender => exact ⟨rfl, rfl, rfl, [], (List.append_nil _).symm, by simp⟩
  | schedule stoppable | drop =>
      simp only [Traffic.step, notMade, ↓reduceIte]
      exact Stale.refl traffic
  | turn =>
      simp only [Traffic.step, turn?_of_over finished]
      exact Stale.refl traffic

theorem run_stale (finished : traffic.loop.phase.isOver = true)
    (closed : traffic.loop.channel.box.isOpen = false) (later : List (Act μ)) :
    Stale traffic (traffic.run actor later) := by
  induction later generalizing traffic with
  | nil => exact Stale.refl traffic
  | cons act rest ih =>
      have first : Stale traffic (traffic.step actor act) := step_stale finished closed act
      refine first.trans (ih ?_ ?_)
      · rw [first.phase]
        exact finished
      · rw [first.shut]
        exact closed

-- A run that is at its end has come by one turn that ended it.
theorem cut_of_finished {start : Traffic σ μ} (acts : List (Act μ))
    (unfinished : start.loop.phase ≠ .finished)
    (finished : (start.run actor acts).loop.phase = .finished) :
    ∃ before after, acts = before ++ .turn :: after ∧
      (start.run actor before).loop.phase = .running ∧
      ((start.run actor before).step actor .turn).loop.phase = .finished := by
  obtain ⟨before, act, after, rfl, still, turned⟩ :=
    turning_point (fun traffic : Traffic σ μ => traffic.loop.phase = .finished) acts unfinished
      finished
  rcases of_step_finished turned with earlier | ⟨running, rfl⟩
  · exact absurd earlier still
  · exact ⟨before, after, rfl, running, turned⟩

/-! ## The contract -/

theorem bare_turn (traffic : Traffic σ μ) : (traffic.step actor .turn).loop.bare =
    (traffic.loop.bare.turn? actor).getD traffic.loop.bare := by
  rw [← Loop.turn?_logged, Traffic.step]
  cases traffic.loop.turn? actor.logged <;> rfl

theorem create?_made {start : Traffic σ μ} (created : create? initial capacity = some start) :
    start.loop.phase = .made := by
  obtain ⟨loop, made, rfl⟩ := Option.map_eq_some_iff.mp created
  obtain ⟨channel, opened, rfl⟩ := Option.map_eq_some_iff.mp made
  rfl

theorem Sound.alone_iff (sound : traffic.Sound actor initial capacity) :
    traffic.loop.channel.addresses = 0 ↔ traffic.senders = [] := by
  rw [sound.counted, List.length_eq_zero_iff]

theorem calls_prefix (handled : List μ) (phase : Phase) :
    calls handled phase <+: calls handled .finished := by
  cases phase with
  | running => exact List.prefix_append _ _
  | finished => exact List.prefix_refl _
  | _ => exact List.nil_prefix

theorem Sound.all_kept (sound : traffic.Sound actor initial capacity)
    (goesOn : traffic.loop.phase.isOver = false) :
    traffic.accepted.map (·.2) = traffic.handled ++ traffic.queue := by
  obtain ⟨lost, kept, nothing, -⟩ := sound.accounted
  rw [kept, nothing goesOn, List.append_nil]

theorem Sound.handled_accepted (sound : traffic.Sound actor initial capacity) :
    traffic.handled <+: traffic.accepted.map (·.2) := by
  obtain ⟨lost, kept, -⟩ := sound.accounted
  rw [kept, List.append_assoc]
  exact List.prefix_append _ _

theorem Sound.taken_of_room (sound : traffic.Sound actor initial capacity)
    (goesOn : traffic.loop.phase.isOver = false) (room : traffic.queue.length < capacity)
    (sender : Nat) (message : μ) (waits : Bool) :
    (traffic.put sender message waits).accepted = traffic.accepted ++ [(sender, message)] := by
  have opened : traffic.loop.channel.box.isOpen = true := by rw [sound.serving, goesOn]; rfl
  rw [← sound.sized] at room
  rcases traffic.loop.offer_cases message with ⟨closed, -⟩ | ⟨-, -, taken⟩ | ⟨-, full, -⟩
  · cases opened.symm.trans closed
  · simp only [Traffic.put, taken, accepted_taken]
    rfl
  · exact absurd room (Nat.not_lt_of_le full)

-- What was queued when the turn came that ended the task is what was lost.
theorem Sound.at_cut (sound : traffic.Sound actor initial capacity)
    (running : traffic.loop.phase = .running)
    (ended : traffic.loop.signal = .raised ∨
      (traffic.loop.channel.addresses = 0 ∧ traffic.queue = []))
    {last : Traffic σ μ} (stale : Stale (traffic.step actor .turn) last) :
    last.log = traffic.log ++ [.stop] ∧ last.handled = traffic.handled ∧
      last.accepted.map (·.2) = last.handled ++ traffic.queue ∧
      last.loop.state.1 = outcome actor initial last.log traffic.queue := by
  have finished := sound.finish running
  rw [step_finish running ended] at stale
  have log : last.log = traffic.log ++ [.stop] :=
    (congrArg Prod.snd stale.state).trans (log_finish traffic)
  have handled : last.handled = traffic.handled :=
    (congrArg (Invocation.messages ∘ Prod.snd) stale.state).trans (handled_finish traffic)
  have kept : last.accepted.map (·.2) = last.handled ++ traffic.queue := by
    rw [stale.accepted, handled]
    exact sound.all_kept (by rw [running]; rfl)
  refine ⟨log, handled, kept, ?_⟩
  obtain ⟨lost, whole, -, state⟩ := finished.accounted
  rw [← stale.accepted, kept, handled, handled_finish] at whole
  have same : traffic.queue = lost := by
    rw [List.append_assoc] at whole
    exact (List.append_cancel_left whole).trans (List.append_nil lost)
  rw [stale.state, state, same, log, log_finish]

/-- Of an actor that is sent messages by any number of senders, in any order of what they and the
task do: it is started, given messages and stopped, each message as often as it was accepted, in
that order, and every sender's in the order it sent them; never more than the capacity are queued;
an accepted message is queued until it is handled, and while nobody waits, a message is accepted if
there is room; the task ends when it has been told to or when no sender is left and nothing is
queued, and loses what is queued then; and from then on all that is sent is refused. -/
theorem actor_contract (actor : Actor σ μ) (initial : σ) (capacity : Nat) (start : Traffic σ μ)
    (created : create? initial capacity = some start) (acts : List (Act μ)) :
    let traffic := start.run actor acts
    (traffic.log <+: .start :: traffic.handled.map .handle ++ [.stop] ∧
      traffic.handled <+: traffic.accepted.map (·.2) ∧
      (∀ sender, (ofSender sender traffic.accepted).Sublist (ofSender sender traffic.begun)) ∧
      traffic.queue.length ≤ capacity) ∧
    (traffic.step actor .turn).loop.bare =
      (traffic.loop.bare.turn? actor).getD traffic.loop.bare ∧
    (traffic.loop.phase.isOver = false →
      traffic.accepted.map (·.2) = traffic.handled ++ traffic.queue ∧
      ((∀ other, traffic.waiting other = none) → traffic.queue.length < capacity →
        ∀ sender message, traffic.isFree sender = true →
        (traffic.step actor (.tell sender message)).accepted =
          traffic.accepted ++ [(sender, message)] ∧
        (traffic.step actor (.tryTell sender message)).accepted =
          traffic.accepted ++ [(sender, message)])) ∧
    (traffic.loop.phase = .running →
      ((traffic.step actor .turn).loop.phase = .finished ↔
        traffic.loop.signal = .raised ∨ (traffic.senders = [] ∧ traffic.queue = []))) ∧
    (traffic.loop.phase = .finished → ∃ before after, acts = before ++ .turn :: after ∧
      let cut := start.run actor before
      cut.loop.phase = .running ∧
      (cut.loop.signal = .raised ∨ (cut.senders = [] ∧ cut.queue = [])) ∧
      traffic.log = cut.log ++ [.stop] ∧ traffic.handled = cut.handled ∧
      traffic.accepted.map (·.2) = traffic.handled ++ cut.queue ∧
      traffic.loop.state.1 = outcome actor initial traffic.log cut.queue) ∧
    (traffic.loop.phase.isOver = true → ∀ later,
      let last := traffic.run actor later
      last.log = traffic.log ∧
      (∃ refused, last.answers = traffic.answers ++ refused ∧
        ∀ answer ∈ refused, answer.result = .error .closed) ∧
      (∀ sender message, last.isFree sender = true →
        (last.step actor (.tell sender message)).answers =
          last.answers ++ [⟨sender, message, .error .closed⟩] ∧
        (last.step actor (.tryTell sender message)).answers =
          last.answers ++ [⟨sender, message, .error .closed⟩]) ∧
      (∀ sender message, last.waiting sender = some message →
        (last.step actor (.retry sender)).answers =
          last.answers ++ [⟨sender, message, .error .closed⟩])) := by
  intro traffic
  have begins : start.Sound actor initial capacity := create?_sound created
  have sound : traffic.Sound actor initial capacity := begins.run acts
  refine ⟨⟨?_, sound.handled_accepted, ?_, sound.bounded⟩, bare_turn traffic, ?_, ?_, ?_, ?_⟩
  · rw [sound.called]
    exact calls_prefix traffic.handled traffic.loop.phase
  · intro sender
    exact (List.sublist_append_left _ _).trans (sound.inTurn sender)
  · intro goesOn
    refine ⟨sound.all_kept goesOn, fun _ room sender message free => ?_⟩
    obtain ⟨begun, -⟩ := sound.begin free message
    simp only [Traffic.step, free, ↓reduceIte]
    exact ⟨begun.taken_of_room goesOn room sender message true,
      begun.taken_of_room goesOn room sender message false⟩
  · intro running
    rw [turn_finishes running, sound.alone_iff]
  · intro finished
    have unfinished : start.loop.phase ≠ .finished := by rw [create?_made created]; decide
    obtain ⟨before, after, rfl, running, turned⟩ := cut_of_finished acts unfinished finished
    have cut := begins.run before
    have ended := (turn_finishes running).mp turned
    refine ⟨before, after, rfl, running, ?_, ?_⟩
    · rw [← cut.alone_iff]
      exact ended
    · have shut : ((start.run actor before).step actor .turn).loop.channel.box.isOpen = false := by
        rw [(cut.step .turn).serving, turned]
        rfl
      have stale : Stale ((start.run actor before).step actor .turn) traffic := by
        have same : traffic = ((start.run actor before).step actor .turn).run actor after :=
          run_append before (.turn :: after)
        rw [same]
        exact run_stale (by rw [turned]; rfl) shut after
      exact cut.at_cut running ended stale
  · intro finished later last
    have closed : traffic.loop.channel.box.isOpen = false := by rw [sound.serving, finished]; rfl
    have stale : Stale traffic last := run_stale finished closed later
    have shut := stale.shut.trans closed
    refine ⟨congrArg Prod.snd stale.state, stale.refused, fun sender message free => ?_,
      fun sender message waits => ?_⟩
    · have begun : (last.begin sender message).loop.channel.box.isOpen = false := shut
      simp only [Traffic.step, free, ↓reduceIte, put_closed begun]
      exact ⟨rfl, rfl⟩
    · simp only [Traffic.step, waits, put_closed shut]
      rfl

-- One sender waits for room when the task is told to stop.
theorem actor_contract_of_waiting_sender :
    let start : Traffic (List Call) String :=
      ⟨⟨([], []), ⟨⟨2, [], true⟩, 1⟩, .made, .none⟩, [0], 1, fun _ => none, [], []⟩
    let acts : List (Act String) :=
      [.schedule true, .share 0, .tell 0 "a", .tell 1 "b", .tell 0 "c", .tryTell 1 "d", .turn,
        .turn, .retry 0, .tell 1 "e", .raiseStop, .turn]
    let traffic := start.run (recorder true) acts
    create? [] 2 = some start ∧
      (traffic.loop.state.1 = [.start, .handle "a", .stop] ∧
        traffic.accepted = [(0, "a"), (1, "b"), (0, "c")]) ∧
      (∃ before after, acts = before ++ .turn :: after ∧
        (start.run (recorder true) before).queue = ["b", "c"]) ∧
      (traffic.step (recorder true) (.retry 1)).answers =
        traffic.answers ++ [⟨1, "e", .error .closed⟩] := by
  intro start acts traffic
  have created : create? [] 2 = some start := rfl
  obtain ⟨-, -, -, -, atEnd, after⟩ := actor_contract (recorder true) [] 2 start created acts
  have accepted : traffic.accepted = [(0, "a"), (1, "b"), (0, "c")] := by decide +kernel
  refine ⟨created, ⟨by decide +kernel, accepted⟩, ?_, ?_⟩
  · obtain ⟨before, after, same, -, -, -, -, kept, -⟩ := atEnd (by decide +kernel)
    refine ⟨before, after, same, ?_⟩
    have handled : traffic.handled = ["a"] := by decide +kernel
    change traffic.accepted.map (·.2) = traffic.handled ++ _ at kept
    rw [accepted, handled] at kept
    exact (List.cons.inj kept).2.symm
  · have waits : (start.run (recorder true) acts).waiting 1 = some "e" := by decide +kernel
    obtain ⟨-, -, -, waiting⟩ := after (by decide +kernel) []
    rw [run_nil] at waiting
    exact waiting 1 "e" waits

/-! ## Sending to a task that has to be let run

One who waits for room lets the task run until it waits too, and tries once more. -/

theorem turns_of_none {loop : Loop σ μ} (waits : loop.turn? actor = none) (count : Nat) :
    Loop.turns actor count loop = loop := by
  cases count with
  | zero => rfl
  | succ count => simp only [Loop.turns, waits]

theorem run_turns (count : Nat) (traffic : Traffic σ μ) :
    traffic.run actor (List.replicate count .turn) =
      { traffic with loop := Loop.turns actor.logged count traffic.loop } := by
  induction count generalizing traffic with
  | zero => rfl
  | succ count ih =>
      change (traffic.step actor .turn).run actor (List.replicate count .turn) = _
      rw [ih, Traffic.step, Loop.turns]
      cases turned : traffic.loop.turn? actor.logged with
      | none => simp only [turns_of_none turned]
      | some next => rfl

def told (sender : Nat) (message : μ) : Except MailboxError Unit → List (Answer μ)
  | .error .full => []
  | result => [⟨sender, message, result⟩]

theorem retry_is_offer {sender : Nat} {message : μ} (waits : traffic.waiting sender = some message) :
    let last := traffic.step actor (.retry sender)
    match traffic.loop.offer message with
    | .ok loop => last.loop = loop ∧ last.answers = traffic.answers ++ told sender message (.ok ())
    | .error reason => last.loop = traffic.loop ∧
        last.answers = traffic.answers ++ told sender message (.error reason) := by
  rcases traffic.loop.offer_cases message with ⟨-, closed⟩ | ⟨-, -, taken⟩ | ⟨-, -, full⟩
  · simp only [Traffic.step, waits, Traffic.put, closed]
    exact ⟨rfl, rfl⟩
  · simp only [Traffic.step, waits, Traffic.put, taken]
    exact ⟨rfl, rfl⟩
  · simp only [Traffic.step, waits, Traffic.put, full, ↓reduceIte]
    exact ⟨rfl, (List.append_nil _).symm⟩

theorem tell_is_run (traffic : Traffic σ μ) {sender : Nat} (free : traffic.isFree sender = true)
    (message : μ) :
    ∃ count,
      let last := traffic.run actor
        (.tell sender message :: List.replicate count .turn ++ [.retry sender])
      let (loop, result) := traffic.loop.tell actor.logged message
      last.loop = loop ∧ last.answers = traffic.answers ++ told sender message result := by
  rcases traffic.loop.offer_cases message with ⟨-, closed⟩ | ⟨-, -, taken⟩ | ⟨-, -, full⟩
  · have refused : (traffic.begin sender message).loop.offer message = .error .closed := closed
    refine ⟨0, ?_⟩
    simp only [run, List.replicate_zero, List.cons_append, List.nil_append, List.foldl_cons,
      step, free, ↓reduceIte, put, refused, waiting_answer, List.foldl_nil, Loop.tell, closed]
    exact ⟨rfl, rfl⟩
  · have accepted : (traffic.begin sender message).loop.offer message =
        .ok (traffic.loop.queueing message) := taken
    refine ⟨0, ?_⟩
    simp only [run, List.replicate_zero, List.cons_append, List.nil_append, List.foldl_cons,
      step, free, ↓reduceIte, put, accepted, begun_begin, waiting_answer, List.foldl_nil,
      Loop.tell, taken]
    exact ⟨rfl, rfl⟩
  · have refused : (traffic.begin sender message).loop.offer message = .error .full := full
    have waits : traffic.step actor (.tell sender message) =
        (traffic.begin sender message).wait sender (some message) := by
      simp only [Traffic.step, free, ↓reduceIte, Traffic.put, refused]
    let waited : Traffic σ μ :=
      { (traffic.begin sender message).wait sender (some message) with
        loop := traffic.loop.settle actor.logged }
    have held : waited.waiting sender = some message := if_pos rfl
    have retried := @retry_is_offer σ μ actor waited sender message held
    refine ⟨traffic.queue.length + 2, ?_⟩
    have whole : traffic.run actor (.tell sender message ::
        List.replicate (traffic.queue.length + 2) .turn ++ [.retry sender]) =
        waited.step actor (.retry sender) := by
      change (traffic.step actor _).run actor (_ ++ [.retry sender]) = _
      rw [waits, run_append, run_turns]
      rfl
    rw [whole]
    change match (traffic.loop.settle actor.logged).offer message with | .ok _ => _ | .error _ => _
      at retried
    cases offered : (traffic.loop.settle actor.logged).offer message with
    | ok accepted =>
        have told : traffic.loop.tell actor.logged message = (accepted, .ok ()) := by
          simp only [Loop.tell, full, offered]
        rw [offered] at retried
        rw [told]
        exact retried
    | error reason =>
        have told : traffic.loop.tell actor.logged message =
            (traffic.loop.settle actor.logged, .error reason) := by
          simp only [Loop.tell, full, offered]
        rw [offered] at retried
        rw [told]
        exact retried

end ChatRooms.Traffic
