import ChatRooms.Proofs.Terminal.Happening

/-! What a console has to do and to read grows less with everything that it does of its own accord.
Only input and events give it more. -/
namespace ChatRooms.Terminal

theorem nextInput_shorter {pending octets rest : List UInt8} {inputEnded : Bool}
    (found : nextInput pending inputEnded = .line octets rest) : rest.length < pending.length := by
  unfold nextInput at found
  split at found
  · rename_i feed after behind
    cases found
    have parted := List.takeWhile_append_dropWhile (p := fun octet => decide (octet ≠ newline))
      (l := pending)
    rw [behind] at parted
    rw [← parted]
    simp only [List.length_append, List.length_cons]
    omega
  · cases inputEnded with
    | false => simp at found
    | true =>
        cases pending with
        | nil => simp at found
        | cons octet pending =>
            simp only [Bool.not_true, Bool.false_eq_true, ↓reduceIte, List.isEmpty_cons] at found
            cases found
            exact Nat.succ_pos _

theorem nextInput_not_waiting (pending : List UInt8) : nextInput pending true ≠ .waiting := by
  unfold nextInput
  split
  · simp
  · cases pending <;> simp

theorem lineTasks_length (session : Session) (mode : Mode) (now : Timestamp) (line : String) :
    (lineTasks session mode now line).length ≤ 6 := by
  unfold lineTasks
  split
  · simp [leaveTasks, wishTasks, Session.moves]
  · rename_i entry _ _
    cases entry <;> cases mode <;>
      simp [entryTasks, wishTasks, Session.moves, writeLine, promptTasks]
  · cases mode <;> simp [writeLine, promptTasks]

namespace Console

variable {console next : Console} {happening : Happening}

/-- What is left for a console to do. Once it is about to finish, it reads no more. -/
def toil (console : Console) : Nat :=
  if console.hasEnded then 0
  else if .finish ∈ console.tasks then console.tasks.length
  else console.workload

theorem toil_pos (running : console.outcome = none) : 0 < console.toil := by
  simp only [toil, hasEnded, running, Option.isSome_none, Bool.false_eq_true, ↓reduceIte]
  split
  · rename_i finishing
    exact List.length_pos_of_mem finishing
  · unfold workload
    omega

theorem toil_of_task {task : Task} {tasks : List Task} (running : console.outcome = none)
    (first : console.tasks = task :: tasks) (unfinished : task ≠ .finish)
    (left : next.tasks = tasks) (pending : next.pending = console.pending) :
    next.toil < console.toil := by
  have before : console.toil = if .finish ∈ tasks then tasks.length + 1
      else tasks.length + 1 + 8 * (console.pending.length + 1) := by
    simp [toil, hasEnded, running, first, Ne.symm unfinished, workload]
  rw [before, toil]
  by_cases ended : next.hasEnded = true
  · rw [if_pos ended]
    split <;> omega
  · rw [if_neg ended, left, workload, left, pending]
    split <;> omega

theorem toil_of_print {task : Task} {tasks : List Task} {text : String}
    (running : console.outcome = none) (first : console.tasks = task :: tasks)
    (prints : task.text? console.session = some text)
    (emits : Emits { console with tasks } text next) : next.toil < console.toil := by
  cases emits with
  | whole => exact toil_of_task running first (unfinished_of_text prints) rfl rfl
  | closed => exact toil_pos running

theorem toil_of_read {now : Timestamp} (ready : console.isReady = true)
    (reads : console.readLine? now = some next) : next.toil < console.toil := by
  obtain ⟨running, nothing⟩ := isReady_iff.mp ready
  have before : console.toil = 8 * (console.pending.length + 1) := by
    simp [toil, hasEnded, running, nothing, workload]
  rw [before]
  cases readsTo_of_readLine? reads with
  | ended =>
      simp [toil, hasEnded, running, leaveTasks, wishTasks, Session.moves]
      omega
  | garbled => exact Nat.succ_pos _
  | line octets rest line found =>
      have shorter := nextInput_shorter found
      have few := lineTasks_length console.session console.mode now (stripLineEnd line)
      simp only [toil, hasEnded, running, Option.isSome_none, Bool.false_eq_true, ↓reduceIte,
        workload]
      split <;> omega

/-- What a console does of its own accord leaves it less to do. -/
theorem Goes.toil (settled : console.Settled) (goes : console.Goes happening next)
    (untaken : happening.took? = none) (unsupplied : happening.supply? = none) :
    next.toil < console.toil := by
  have running := goes.running settled unsupplied
  cases goes with
  | feed | endInput => contradiction
  | send command tasks first => exact toil_of_task running first (by simp) rfl rfl
  | enter room tasks first => exact toil_of_task running first (by simp) rfl rfl
  | refuse command tasks first => exact toil_pos running
  | print task text tasks _ first prints emits => exact toil_of_print running first prints emits
  | finish tasks _ first finishes => cases finishes <;> exact toil_pos running
  | read now _ ready reads => exact toil_of_read ready reads
  | take event ready => contradiction

theorem Goes.inputEnded (goes : console.Goes happening next) (ended : console.inputEnded = true) :
    next.inputEnded = true := by
  cases goes with
  | feed | send | refuse | enter | take => exact ended
  | endInput => rfl
  | print task text tasks _ first prints emits => cases emits <;> exact ended
  | finish tasks _ first finishes => cases finishes <;> exact ended
  | read now _ ready reads =>
      cases readsTo_of_readLine? reads <;> exact ended

end Console
end ChatRooms.Terminal
