import ChatRooms.Proofs.Terminal.Happening
import Mathlib.Data.List.TakeWhile

/-! The requests of a console are a function of its input. What is left of them, given what the
console has left to do and to read, loses its head when a request is sent and is otherwise kept,
whatever is delivered and however the input is cut. -/
namespace ChatRooms

def Command.stamped (at_ : Timestamp) : Command → Command
  | .direct letter => .direct { letter with sentAt := at_ }
  | command => command

namespace Terminal

def lines : List UInt8 → List (List UInt8)
  | [] => []
  | octet :: rest =>
      if octet = newline then [octet] :: lines rest
      else match lines rest with
        | [] => [[octet]]
        | line :: later => (octet :: line) :: later

def entryOf (octets : List UInt8) : Except Text.Utf8.Fault (Except EntryError Entry) :=
  (Text.Utf8.decode octets).map fun line => Entry.parse (stripLineEnd line)

def legible : List (List UInt8) → Bool
  | [] => true
  | octets :: later =>
      match entryOf octets with
      | .error _ => false
      | .ok (.ok .quit) => true
      | .ok _ => legible later

def requests (at_ : Timestamp) (session : Session) : Entry → List Command
  | .say content => [.post session.user content ""]
  | .users => [.listUsers session.room]
  | .join room => [.disconnect, .connect session.user room]
  | .direct recipient content => [.direct ⟨session.user, recipient, content, at_⟩]
  | .blank | .help | .quit => []

def afterEntry (session : Session) : Entry → Session
  | .join room => session.enter room
  | _ => session

/-- The requests for the lines up to the one that quits, or to the end, and the last one. A line
that is not text ends them early. -/
def script (at_ : Timestamp) : Session → List (List UInt8) → List Command
  | _, [] => [.disconnect]
  | session, octets :: later =>
      match entryOf octets with
      | .error _ => []
      | .ok (.ok .quit) => [.disconnect]
      | .ok (.ok entry) =>
          requests at_ session entry ++ script at_ (afterEntry session entry) later
      | .ok (.error _) => script at_ session later

def upcoming (at_ : Timestamp) (input : List UInt8) : Session → List Task → List Command
  | session, [] => script at_ session (lines input)
  | session, .move (.send command) :: tasks =>
      command.stamped at_ :: upcoming at_ input session tasks
  | session, .move (.enter room) :: tasks => upcoming at_ input (session.enter room) tasks
  | session, .write _ :: tasks => upcoming at_ input session tasks
  | session, .endLine :: tasks => upcoming at_ input session tasks
  | session, .prompt :: tasks => upcoming at_ input session tasks
  | _, .finish :: _ => []

variable {at_ : Timestamp} {session : Session} {input : List UInt8}

theorem lines_newline {line : List UInt8} (plain : ∀ octet ∈ line, octet ≠ newline)
    (rest : List UInt8) : lines (line ++ newline :: rest) = (line ++ [newline]) :: lines rest := by
  induction line with
  | nil => simp [lines]
  | cons octet line ih =>
      have tail := ih fun other listed => plain other (List.mem_cons_of_mem _ listed)
      have first := plain octet List.mem_cons_self
      simp [lines, first, tail]

theorem lines_unended {line : List UInt8} (plain : ∀ octet ∈ line, octet ≠ newline)
    (some_octet : line ≠ []) : lines line = [line] := by
  induction line with
  | nil => exact absurd rfl some_octet
  | cons octet line ih =>
      have first := plain octet List.mem_cons_self
      cases line with
      | nil => simp [lines, first]
      | cons second line =>
          have tail := ih (fun other listed => plain other (List.mem_cons_of_mem _ listed))
            (List.cons_ne_nil _ _)
          rw [lines, if_neg first, tail]

/-- What a console reads is the first line of all that is still to come. -/
theorem lines_of_nextInput {pending octets rest later : List UInt8} {inputEnded : Bool}
    (found : nextInput pending inputEnded = .line octets rest)
    (dry : inputEnded = true → later = []) :
    lines (pending ++ later) = octets :: lines (rest ++ later) := by
  have parted := List.takeWhile_append_dropWhile (p := fun octet => decide (octet ≠ newline))
    (l := pending)
  have plain : ∀ octet ∈ pending.takeWhile (· ≠ newline), octet ≠ newline := by
    intro octet listed
    simpa using List.mem_takeWhile_imp listed
  unfold nextInput at found
  cases behind : pending.dropWhile (· ≠ newline) with
  | cons feed after =>
      rw [behind] at found
      cases found
      have is_feed : feed = newline := by
        have head := List.head?_dropWhile_not (fun octet => decide (octet ≠ newline)) pending
        rw [behind] at head
        simpa using head
      rw [behind, is_feed] at parted
      rw [← parted, List.append_assoc, List.cons_append, lines_newline plain, parted]
  | nil =>
      rw [behind, List.append_nil] at parted
      rw [behind] at found
      cases inputEnded with
      | false => simp at found
      | true =>
          cases pending with
          | nil => simp at found
          | cons octet pending =>
              rw [parted] at plain
              simp only [Bool.not_true, Bool.false_eq_true, ↓reduceIte, List.isEmpty_cons]
                at found
              cases found
              rw [dry rfl, List.append_nil, lines_unended plain (List.cons_ne_nil _ _)]
              rfl

theorem nextInput_ended {pending : List UInt8} {inputEnded : Bool}
    (found : nextInput pending inputEnded = .ended) : pending = [] ∧ inputEnded = true := by
  unfold nextInput at found
  split at found
  · contradiction
  · cases inputEnded with
    | false => simp at found
    | true =>
        cases pending with
        | nil => exact ⟨rfl, rfl⟩
        | cons => simp at found

theorem upcoming_of_text {task : Task} {tasks : List Task} {text : String}
    (prints : task.text? session = some text) :
    upcoming at_ input session (task :: tasks) = upcoming at_ input session tasks := by
  cases task with
  | write | endLine | prompt => rfl
  | move | finish => contradiction

theorem upcoming_writeLine (text : String) (tasks : List Task) :
    upcoming at_ input session (writeLine text ++ tasks) = upcoming at_ input session tasks := rfl

theorem upcoming_promptTasks (mode : Mode) :
    upcoming at_ input session (promptTasks mode) = script at_ session (lines input) := by
  cases mode <;> rfl

theorem upcoming_entryTasks (now : Timestamp) (entry : Entry) (tasks : List Task) :
    upcoming at_ input session (entryTasks session now entry ++ tasks) =
      requests at_ session entry ++ upcoming at_ input (afterEntry session entry) tasks := by
  cases entry <;> rfl

-- What a line makes a console do comes to the requests that the script has for it.
theorem upcoming_lineTasks {octets : List UInt8} {line : String} (mode : Mode) (now : Timestamp)
    (later : List (List UInt8)) (decoded : Text.Utf8.decode octets = .ok line)
    (rest : lines input = later) :
    upcoming at_ input session (lineTasks session mode now (stripLineEnd line)) =
      script at_ session (octets :: later) := by
  have means : entryOf octets = .ok (Entry.parse (stripLineEnd line)) := by
    rw [entryOf, decoded]
    rfl
  rw [lineTasks, script, means]
  cases parsed : Entry.parse (stripLineEnd line) with
  | error reason =>
      simp only
      rw [upcoming_writeLine, upcoming_promptTasks, rest]
  | ok entry =>
      cases entry with
      | quit => rfl
      | blank | say | help | users | join | direct =>
          simp only
          rw [upcoming_entryTasks, upcoming_promptTasks, rest]

namespace Console

def remaining (at_ : Timestamp) (console : Console) (input : List UInt8) : List Command :=
  if console.hasEnded then []
  else upcoming at_ (console.pending ++ input) console.session console.tasks

/-- What holds of a console whose input is text. It comes to grief only by its output. -/
structure OnScript (console : Console) (input : List UInt8) : Prop where
  settled : console.Settled
  dry : console.inputEnded = true → input = []
  fine : ∀ reason, console.outcome = some (.error reason) →
    reason = .outputClosed ∧ console.sink.isLimited = true
  readable : console.hasEnded = true ∨ .finish ∈ console.tasks ∨
    legible (lines (console.pending ++ input)) = true

variable {console next : Console} {happening : Happening}

@[simp] theorem remaining_of_running (running : console.outcome = none) :
    console.remaining at_ input =
      upcoming at_ (console.pending ++ input) console.session console.tasks := by
  simp [remaining, hasEnded, running]

-- A task that is not the last one is done.
theorem OnScript.onward {task : Task} {tasks : List Task} (on : console.OnScript input)
    (first : console.tasks = task :: tasks) (unfinished : task ≠ .finish)
    (running : next.outcome = none) (left : next.tasks = tasks)
    (pending : next.pending = console.pending) (ended : next.inputEnded = console.inputEnded) :
    next.OnScript input where
  settled := settled_of_running running
  dry := by
    rw [ended]
    exact on.dry
  fine := by simp [running]
  readable := by
    right
    rw [left, pending]
    have before := on.readable
    simpa [hasEnded, on.settled.running first, first, Ne.symm unfinished] using before

theorem OnScript.print {task : Task} {tasks : List Task} {text : String}
    (on : console.OnScript input) (first : console.tasks = task :: tasks)
    (prints : task.text? console.session = some text)
    (emits : Emits { console with tasks } text next) :
    next.OnScript input ∧ (console.sink = .unlimited →
      console.remaining at_ input = next.remaining at_ input) := by
  have running := on.settled.running first
  constructor
  · cases emits with
    | whole => exact on.onward first (unfinished_of_text prints) running rfl rfl rfl
    | closed sink written like limited =>
        refine ⟨fun _ => rfl, on.dry, ?_, Or.inl rfl⟩
        intro reason failed
        simp only [conclude, Option.some.injEq, Except.error.injEq] at failed
        exact ⟨failed.symm, like.isLimited.trans limited⟩
  · intro free
    rw [emits.of_unlimited free]
    simp only [remaining_of_running, running, first, upcoming_of_text prints]

-- Reading takes a line off what is to come, and turns it into as many requests.
theorem OnScript.read {now : Timestamp} (on : console.OnScript input)
    (ready : console.isReady = true) (reads : console.readLine? now = some next) :
    next.OnScript input ∧ console.remaining at_ input = next.remaining at_ input := by
  obtain ⟨running, nothing⟩ := isReady_iff.mp ready
  have text : legible (lines (console.pending ++ input)) = true := by
    simpa [hasEnded, running, nothing] using on.readable
  cases readsTo_of_readLine? reads with
  | ended found =>
      obtain ⟨empty, dry⟩ := nextInput_ended found
      refine ⟨⟨settled_of_running running, on.dry, on.fine, ?_⟩, ?_⟩
      · exact Or.inr (Or.inl (by simp [leaveTasks]))
      · simp only [remaining_of_running, running, nothing, empty, on.dry dry]
        rfl
  | garbled octets rest fault found decoded =>
      rw [lines_of_nextInput found on.dry, legible] at text
      simp [entryOf, decoded, Except.map] at text
  | line octets rest line found decoded =>
      have taken := lines_of_nextInput found on.dry
      rw [taken, legible] at text
      refine ⟨⟨settled_of_running running, on.dry, on.fine, Or.inr ?_⟩, ?_⟩
      · cases parsed : Entry.parse (stripLineEnd line) with
        | error reason =>
            exact Or.inr (by simpa [entryOf, decoded, Except.map, parsed] using text)
        | ok entry =>
            cases entry with
            | quit => exact Or.inl (by simp [lineTasks, parsed, leaveTasks])
            | blank | say | help | users | join | direct =>
                exact Or.inr (by simpa [entryOf, decoded, Except.map, parsed] using text)
      · simp only [remaining_of_running, running, nothing]
        rw [upcoming, taken, upcoming_lineTasks _ _ _ decoded rfl]

/-- Whatever happens, the requests still to be sent lose at most their first one, and that when it
is sent. -/
theorem OnScript.goes {later : List Supply} (on : console.OnScript input)
    (goes : console.Goes happening next) (accepted : happening ≠ .refused)
    (feeds : Feeds input (happening.supply?.toList ++ later)) :
    ∃ left, Feeds left later ∧ next.OnScript left ∧ (console.sink = .unlimited →
      console.remaining at_ input =
        (happening.sent?.toList.map (Command.stamped at_)) ++ next.remaining at_ left) := by
  cases goes with
  | feed octets =>
      obtain ⟨left, rfl, more⟩ := feeds
      refine ⟨left, more, ⟨on.settled, ?_, on.fine, ?_⟩, ?_⟩
      · intro ended
        exact (List.append_eq_nil_iff.mp (on.dry ended)).2
      · simpa [Console.feed, hasEnded] using on.readable
      · change _ → _ = [] ++ if console.hasEnded then [] else
          upcoming at_ (console.pending ++ octets ++ left) console.session console.tasks
        intro _
        rw [remaining, List.append_assoc]
        rfl
  | endInput =>
      obtain ⟨rfl, more⟩ := feeds
      exact ⟨[], more, ⟨on.settled, fun _ => rfl, on.fine, on.readable⟩, fun _ => rfl⟩
  | send command tasks first =>
      have running := on.settled.running first
      refine ⟨input, feeds, on.onward first (by simp) running rfl rfl rfl, fun _ => ?_⟩
      simp only [remaining_of_running, running, first]
      rfl
  | refuse => contradiction
  | enter room tasks first =>
      have running := on.settled.running first
      refine ⟨input, feeds, on.onward first (by simp) running rfl rfl rfl, fun _ => ?_⟩
      simp only [remaining_of_running, running, first]
      rfl
  | print task text tasks _ first prints emits => exact ⟨input, feeds, on.print first prints emits⟩
  | finish tasks _ first finishes =>
      have nothing : console.remaining at_ input = [] := by
        rw [remaining_of_running (on.settled.running first), first]
        rfl
      rw [nothing]
      cases finishes with
      | well =>
          exact ⟨input, feeds, ⟨fun _ => rfl, on.dry, by simp [conclude], Or.inl rfl⟩, fun _ => rfl⟩
      | closed limited =>
          refine ⟨input, feeds, ⟨fun _ => rfl, on.dry, ?_, Or.inl rfl⟩, fun _ => rfl⟩
          intro reason failed
          simp only [conclude, Option.some.injEq, Except.error.injEq] at failed
          exact ⟨failed.symm, Sink.isLimited_of_flushes limited⟩
  | read now _ ready reads =>
      obtain ⟨on_next, same⟩ := on.read ready reads
      exact ⟨input, feeds, on_next, fun _ => same⟩
  | take event ready =>
      obtain ⟨running, nothing⟩ := isReady_iff.mp ready
      have text : legible (lines (console.pending ++ input)) = true := by
        simpa [hasEnded, running, nothing] using on.readable
      refine ⟨input, feeds, ⟨settled_of_running running, on.dry, on.fine,
        Or.inr (Or.inr text)⟩, fun _ => ?_⟩
      simp only [remaining_of_running, running, nothing, Console.take]
      cases console.mode <;> simp [eventTasks, upcoming, writeLine,
        Happening.sent?]

theorem OnScript.reaches (at_ : Timestamp) {happenings : List Happening} {later : List Supply}
    (on : console.OnScript input) (reaches : console.Reaches happenings next)
    (accepted : .refused ∉ happenings)
    (feeds : Feeds input (happenings.filterMap Happening.supply? ++ later)) :
    ∃ left, Feeds left later ∧ next.OnScript left ∧ (console.sink = .unlimited →
      console.remaining at_ input =
        (happenings.filterMap Happening.sent?).map (Command.stamped at_) ++
          next.remaining at_ left) := by
  induction reaches generalizing input with
  | none => exact ⟨input, feeds, on, fun _ => rfl⟩
  | @next _ _ _ happening rest goes _ ih =>
      obtain ⟨here, others⟩ : .refused ≠ happening ∧ .refused ∉ rest := by
        simpa using accepted
      have parted : Feeds input (happening.supply?.toList ++
          (rest.filterMap Happening.supply? ++ later)) := by
        cases supplied : happening.supply? <;> simpa [List.filterMap_cons, supplied] using feeds
      obtain ⟨middle, more, onward, first⟩ := on.goes goes (Ne.symm here) parted
      obtain ⟨left, last, on_last, tail⟩ := ih onward others more
      refine ⟨left, last, on_last, fun free => ?_⟩
      rw [first free, tail (goes.unlimited free), ← List.append_assoc]
      cases sent : happening.sent? <;> simp [sent]

theorem create_onScript {mode : Mode} {sink : Sink} {now : Timestamp}
    (text : legible (lines input) = true) :
    (create session mode sink now).OnScript input where
  settled := settled_of_running rfl
  dry := by simp [create]
  fine := by simp [create]
  readable := Or.inr (Or.inr text)

theorem create_remaining (mode : Mode) (now : Timestamp) :
    (create session mode .unlimited now).remaining at_ input =
      .connect session.user session.room :: script at_ session (lines input) := by
  cases mode <;> rfl

end Console
end Terminal
end ChatRooms
