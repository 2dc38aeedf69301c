import ChatRooms.Proofs.Terminal.Script

/-! How a console parts from the hub. It writes and reads only while its session has not left, or
has left for another room; so it ends well right after it has asked to leave, and fails only before,
or in the flush that is left to do then. -/
namespace ChatRooms.Terminal

def leftBy (left : Bool) (commands : List Command) : Bool :=
  commands.foldl (fun _ command => command = .disconnect) left

/-- Whether tasks, begun by a session that has left or has not, come to the end of the console with
one that has, or else to nothing left to do with one that has not, and write only with such a one.
-/
def partsWell : Bool → List Task → Bool
  | left, [] => !left
  | _, .move (.send command) :: tasks => partsWell (command = .disconnect) tasks
  | left, .move (.enter _) :: tasks => partsWell left tasks
  | left, .write _ :: tasks => !left && partsWell left tasks
  | left, .endLine :: tasks => !left && partsWell left tasks
  | left, .prompt :: tasks => !left && partsWell left tasks
  | left, .finish :: tasks => left && tasks.isEmpty

variable {left : Bool}

theorem leftBy_eq_true {commands : List Command} :
    leftBy false commands = true ↔ commands.getLast? = some .disconnect := by
  rcases List.eq_nil_or_concat commands with rfl | ⟨earlier, last, rfl⟩
  · simp [leftBy]
  · simp [leftBy]

-- Only a session that has not left writes.
theorem partsWell_of_text {session : Session} {task : Task} {tasks : List Task} {text : String}
    (prints : task.text? session = some text) (well : partsWell left (task :: tasks) = true) :
    left = false ∧ partsWell left tasks = true := by
  cases task with
  | write | endLine | prompt =>
      obtain ⟨stayed, rest⟩ := Bool.and_eq_true_iff.mp well
      exact ⟨(Bool.not_eq_true' left).mp stayed, rest⟩
  | move | finish => contradiction

theorem partsWell_promptTasks (mode : Mode) : partsWell false (promptTasks mode) = true := by
  cases mode <;> rfl

theorem partsWell_entryTasks (session : Session) (mode : Mode) (now : Timestamp) (entry : Entry) :
    partsWell false (entryTasks session now entry ++ promptTasks mode) = true := by
  have prompts := partsWell_promptTasks mode
  cases entry <;> simp [entryTasks, wishTasks, Session.moves, writeLine, partsWell, prompts]

theorem partsWell_lineTasks (session : Session) (mode : Mode) (now : Timestamp) (line : String) :
    partsWell false (lineTasks session mode now line) = true := by
  unfold lineTasks
  split
  · rfl
  · exact partsWell_entryTasks session mode now _
  · exact partsWell_promptTasks mode

theorem partsWell_eventTasks (session : Session) (event : Event) (mode : Mode) :
    partsWell false (eventTasks session event mode) = true := by
  cases mode <;> rfl

namespace Console

variable {console next : Console} {happening : Happening} {happenings : List Happening}

/-- A console that has ended well has left. One that has left and failed did so in its last flush.
-/
def Parts (left : Bool) (console : Console) : Prop :=
  match console.outcome with
  | none => partsWell left console.tasks = true
  | some (.ok ()) => left = true
  | some (.error reason) =>
      left = true → reason = .outputClosed ∧ console.sink.flushes.isSome = true

theorem Parts.running (parts : console.Parts left) (running : console.outcome = none) :
    partsWell left console.tasks = true := by
  rw [Parts, running] at parts
  exact parts

theorem Parts.left_of_ended (parts : console.Parts left)
    (ended : console.outcome = some (.ok ())) : left = true := by
  rw [Parts, ended] at parts
  exact parts

theorem Parts.flush_of_failed {reason : ConsoleError} (parts : console.Parts left)
    (failed : console.outcome = some (.error reason)) (gone : left = true) :
    reason = .outputClosed ∧ console.sink.flushes.isSome = true := by
  rw [Parts, failed] at parts
  exact parts gone

theorem parts_of_running (running : console.outcome = none)
    (tasks : partsWell left console.tasks = true) : console.Parts left := by
  rw [Parts, running]
  exact tasks

theorem Parts.read {now : Timestamp} (parts : console.Parts left) (ready : console.isReady = true)
    (reads : console.readLine? now = some next) : next.Parts left := by
  obtain ⟨running, nothing⟩ := isReady_iff.mp ready
  have stayed : left = false := by simpa [nothing, partsWell] using parts.running running
  subst stayed
  cases readsTo_of_readLine? reads with
  | ended => exact parts_of_running running rfl
  | garbled => exact nofun
  | line => exact parts_of_running running (partsWell_lineTasks _ _ _ _)

theorem Parts.goes (settled : console.Settled) (parts : console.Parts left)
    (goes : console.Goes happening next) (accepted : happening ≠ .refused) :
    next.Parts (leftBy left happening.sent?.toList) := by
  cases goes with
  | feed octets => exact parts
  | endInput => exact parts
  | refuse => contradiction
  | send command tasks first | enter room tasks first =>
      have running := settled.running first
      have before := parts.running running
      rw [first] at before
      exact parts_of_running running before
  | print task text tasks _ first prints emits =>
      have running := settled.running first
      have before := parts.running running
      rw [first] at before
      obtain ⟨rfl, rest⟩ := partsWell_of_text prints before
      cases emits with
      | whole => exact parts_of_running running rest
      | closed => exact nofun
  | finish tasks _ first finishes =>
      have before := parts.running (settled.running first)
      rw [first] at before
      cases finishes with
      | well => exact (Bool.and_eq_true_iff.mp before).1
      | closed limited => exact fun _ => ⟨rfl, limited⟩
  | read now _ ready reads => exact parts.read ready reads
  | take event ready =>
      obtain ⟨running, nothing⟩ := isReady_iff.mp ready
      have stayed : left = false := by simpa [nothing, partsWell] using parts.running running
      subst stayed
      exact parts_of_running running (partsWell_eventTasks _ _ _)

theorem Parts.reaches (settled : console.Settled) (parts : console.Parts left)
    (reaches : console.Reaches happenings next) (accepted : .refused ∉ happenings) :
    next.Parts (leftBy left (happenings.filterMap Happening.sent?)) := by
  induction reaches generalizing left with
  | none => exact parts
  | @next _ _ _ happening rest goes _ ih =>
      obtain ⟨here, others⟩ : .refused ≠ happening ∧ .refused ∉ rest := by
        simpa using accepted
      have later := ih (goes.settled settled) (parts.goes settled goes (Ne.symm here)) others
      cases sent : happening.sent? <;> simpa [leftBy, sent] using later

theorem create_parts (session : Session) (mode : Mode) (sink : Sink) (now : Timestamp) :
    (create session mode sink now).Parts false := by
  cases mode <;> rfl

/-- What a console can fail of: an output that takes no more, or an input that is no text. -/
def Excused (console : Console) : Prop :=
  ∀ reason, console.outcome = some (.error reason) →
    (reason = .outputClosed ∧ console.sink.isLimited = true) ∨
      ∃ fault, reason = .inputInvalid fault

theorem excused_of_running (running : console.outcome = none) : console.Excused := by
  simp [Excused, running]

theorem excused_of_closed (limited : console.sink.isLimited = true) :
    (console.conclude (.error .outputClosed)).Excused := by
  intro reason failed
  simp only [conclude, Option.some.injEq, Except.error.injEq] at failed
  exact Or.inl ⟨failed.symm, limited⟩

theorem Excused.goes (settled : console.Settled) (excused : console.Excused)
    (goes : console.Goes happening next) (accepted : happening ≠ .refused) : next.Excused := by
  cases goes with
  | feed octets => exact excused
  | endInput => exact excused
  | refuse => contradiction
  | send command tasks first | enter room tasks first =>
      exact excused_of_running (settled.running first)
  | print task text tasks _ first prints emits =>
      cases emits with
      | whole => exact excused_of_running (settled.running first)
      | closed sink written like limited => exact excused_of_closed (like.isLimited.trans limited)
  | finish tasks _ first finishes =>
      cases finishes with
      | well => simp [Excused, conclude]
      | closed limited => exact excused_of_closed (Sink.isLimited_of_flushes limited)
  | take event ready => exact excused_of_running (isReady_iff.mp ready).1
  | read now _ ready reads =>
      have running := (isReady_iff.mp ready).1
      cases readsTo_of_readLine? reads with
      | ended | line => exact excused_of_running running
      | garbled _ _ fault =>
          intro reason failed
          simp only [conclude, Option.some.injEq, Except.error.injEq] at failed
          exact Or.inr ⟨fault, failed.symm⟩

theorem Excused.reaches (settled : console.Settled) (excused : console.Excused)
    (reaches : console.Reaches happenings next) (accepted : .refused ∉ happenings) :
    next.Excused := by
  induction reaches with
  | none => exact excused
  | @next _ _ _ happening rest goes _ ih =>
      obtain ⟨here, others⟩ : .refused ≠ happening ∧ .refused ∉ rest := by
        simpa using accepted
      exact ih (goes.settled settled) (excused.goes settled goes (Ne.symm here)) others

-- Input that is text up to the line that quits is never found invalid.
theorem illegible_of_invalid {session : Session} {mode : Mode} {sink : Sink}
    {now : Timestamp} {input : List UInt8} {fault : Text.Utf8.Fault}
    (reaches : (create session mode sink now).Reaches happenings next)
    (accepted : .refused ∉ happenings)
    (feeds : Feeds input (happenings.filterMap Happening.supply?))
    (invalid : next.outcome = some (.error (.inputInvalid fault))) :
    legible (lines input) = false := by
  by_contra text
  have on : (create session mode sink now).OnScript input :=
    create_onScript (Bool.not_eq_false _ ▸ text)
  rw [← List.append_nil (happenings.filterMap _)] at feeds
  obtain ⟨_, _, on_end, _⟩ := on.reaches now reaches accepted feeds
  have closed := (on_end.fine _ invalid).1
  contradiction

end Console
end ChatRooms.Terminal
