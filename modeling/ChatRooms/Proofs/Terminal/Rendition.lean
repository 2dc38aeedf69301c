import ChatRooms.Proofs.Terminal.Announcement
import ChatRooms.Proofs.Terminal.Script

/-! What a console shows in text mode. It turns to one item at a time, a line of its input, the
end of the input or an event, and prints a block for each before it turns to the next. What it has
written and what its tasks have yet to write come to the blocks of all items so far; and while it
has requests to send, nothing of the block under way has been written. -/
namespace ChatRooms.Terminal

inductive Item where
  | line (octets : List UInt8)
  | event (event : Event)
  | close
  deriving DecidableEq, Repr

namespace Item

def line? : Item → Option (List UInt8)
  | .line octets => some octets
  | _ => none

def event? : Item → Option Event
  | .event told => some told
  | _ => none

def isFinal : Item → Bool
  | .line octets =>
      match entryOf octets with
      | .ok (.ok .quit) => true
      | _ => false
  | .event _ => false
  | .close => true

end Item

def afterItem (session : Session) : Item → Session
  | .line octets =>
      match entryOf octets with
      | .ok (.ok entry) => afterEntry session entry
      | _ => session
  | _ => session

def reply : Entry → String
  | .help => helpText ++ "\n"
  | .join room => "Joined room: " ++ room ++ "\n"
  | _ => ""

/-- What is printed for an item: for an event a line that overprints the prompt, for a line its
reply or what is wrong with it, and a prompt after either. Nothing is printed for the last item,
nor for a line that is not text. -/
def block (session : Session) : Item → String
  | .event event => overprint event session.room ++ "\n" ++ prompt session
  | .close => ""
  | .line octets =>
      match entryOf octets with
      | .error _ => ""
      | .ok (.error reason) => reason.message ++ "\n" ++ prompt session
      | .ok (.ok .quit) => ""
      | .ok (.ok entry) => reply entry ++ prompt (afterEntry session entry)

def blocks : Session → List Item → String
  | _, [] => ""
  | session, item :: rest => block session item ++ blocks (afterItem session item) rest

def rendition (session : Session) (items : List Item) : String :=
  helpText ++ "\n" ++ prompt session ++ blocks session items

def renditionBefore (session : Session) (items : List Item) : String :=
  if items.isEmpty then "" else rendition session items.dropLast

theorem blocks_append (session : Session) (first second : List Item) :
    blocks session (first ++ second) =
      blocks session first ++ blocks (first.foldl afterItem session) second := by
  induction first generalizing session with
  | nil => exact String.empty_append.symm
  | cons item rest ih =>
      rw [List.cons_append, blocks, ih, ← String.append_assoc]
      rfl

theorem rendition_append (session : Session) (first second : List Item) :
    rendition session (first ++ second) =
      rendition session first ++ blocks (first.foldl afterItem session) second := by
  rw [rendition, blocks_append, ← String.append_assoc]
  rfl

theorem rendition_concat (session : Session) (items : List Item) (item : Item) :
    rendition session (items ++ [item]) =
      rendition session items ++ block (items.foldl afterItem session) item := by
  rw [rendition_append, blocks, blocks, String.append_empty]

theorem renditionBefore_concat (session : Session) (items : List Item) (item : Item) :
    renditionBefore session (items ++ [item]) = rendition session items := by
  simp [renditionBefore]

theorem rendition_of_before (session : Session) (items : List Item) :
    ∃ rest, renditionBefore session items ++ rest = rendition session items := by
  rcases List.eq_nil_or_concat items with rfl | ⟨earlier, item, rfl⟩
  · exact ⟨_, String.empty_append⟩
  · rw [List.concat_eq_append, renditionBefore_concat, rendition_concat]
    exact ⟨_, rfl⟩

/-! ## What tasks print -/

def Task.isMove : Task → Bool
  | .move _ => true
  | _ => false

def dueText : Session → List Task → String
  | _, [] => ""
  | session, .write text :: tasks => text ++ dueText session tasks
  | session, .endLine :: tasks => "\n" ++ dueText session tasks
  | session, .prompt :: tasks => prompt session ++ dueText session tasks
  | session, .move (.enter room) :: tasks => dueText (session.enter room) tasks
  | session, .move (.send _) :: tasks => dueText session tasks
  | _, .finish :: _ => ""

def sessionAfter : Session → List Task → Session
  | session, [] => session
  | session, .move (.enter room) :: tasks => sessionAfter (session.enter room) tasks
  | session, _ :: tasks => sessionAfter session tasks

section Text

variable {session : Session} {task : Task} {text : String}

theorem dueText_of_text (prints : task.text? session = some text) (tasks : List Task) :
    dueText session (task :: tasks) = text ++ dueText session tasks := by
  cases task with
  | write | endLine | prompt =>
      cases prints
      rfl
  | move | finish => contradiction

theorem sessionAfter_of_text (prints : task.text? session = some text) (tasks : List Task) :
    sessionAfter session (task :: tasks) = sessionAfter session tasks := by
  cases task with
  | write | endLine | prompt => rfl
  | move | finish => contradiction

theorem isMove_of_text (prints : task.text? session = some text) : task.isMove = false := by
  cases task with
  | move => contradiction
  | write | endLine | prompt | finish => rfl

end Text

def MovesFirst (tasks : List Task) : Prop :=
  tasks.Pairwise fun first later => later.isMove = true → first.isMove = true

theorem movesFirst_of_unmoved {tasks : List Task} (quiet : ∀ task ∈ tasks, task.isMove = false) :
    MovesFirst tasks :=
  List.pairwise_of_forall_mem_list fun _ _ later listed moves => by
    cases (quiet later listed).symm.trans moves

theorem movesFirst_append {moves others : List Task} (own : ∀ task ∈ moves, task.isMove = true)
    (quiet : ∀ task ∈ others, task.isMove = false) : MovesFirst (moves ++ others) := by
  refine List.pairwise_append.mpr ⟨?_, movesFirst_of_unmoved quiet,
    fun first listed _ _ _ => own first listed⟩
  exact List.pairwise_of_forall_mem_list fun first listed _ _ _ => own first listed

-- When a task that is no move comes first, no move comes after it.
theorem MovesFirst.unmoved {task : Task} {tasks : List Task} (sorted : MovesFirst (task :: tasks))
    (other : task.isMove = false) : ∀ later ∈ task :: tasks, later.isMove = false := by
  intro later listed
  rcases List.mem_cons.mp listed with rfl | behind
  · exact other
  · by_contra moves
    have first := (List.pairwise_cons.mp sorted).1 later behind ((Bool.not_eq_false _).mp moves)
    cases other.symm.trans first

theorem wishTasks_isMove (session : Session) (now : Timestamp) (wish : Wish) :
    ∀ task ∈ wishTasks session now wish, task.isMove = true := by
  intro task listed
  obtain ⟨move, -, rfl⟩ := List.mem_map.mp listed
  rfl

theorem writeLine_isMove (text : String) : ∀ task ∈ writeLine text, task.isMove = false := by
  simp [writeLine, Task.isMove]

theorem promptTasks_isMove (mode : Mode) : ∀ task ∈ promptTasks mode, task.isMove = false := by
  cases mode <;> simp [promptTasks, Task.isMove]

theorem entryTasks_parted (session : Session) (now : Timestamp) (entry : Entry) :
    ∃ moves others, entryTasks session now entry = moves ++ others ∧
      (∀ task ∈ moves, task.isMove = true) ∧ ∀ task ∈ others, task.isMove = false := by
  have wished (wish : Wish) : ∃ moves others, wishTasks session now wish = moves ++ others ∧
      (∀ task ∈ moves, task.isMove = true) ∧ ∀ task ∈ others, task.isMove = false :=
    ⟨_, [], (List.append_nil _).symm, wishTasks_isMove session now wish, (by simp)⟩
  cases entry with
  | blank | quit => exact ⟨[], [], rfl, (by simp), (by simp)⟩
  | say content => exact wished (.post content)
  | users => exact wished .listUsers
  | direct recipient content => exact wished (.direct recipient content)
  | help => exact ⟨[], writeLine helpText, rfl, (by simp), writeLine_isMove helpText⟩
  | join room =>
      exact ⟨_, _, rfl, wishTasks_isMove session now (.switchRoom room), writeLine_isMove _⟩

theorem lineTasks_movesFirst (session : Session) (mode : Mode) (now : Timestamp) (line : String) :
    MovesFirst (lineTasks session mode now line) := by
  have prompts := promptTasks_isMove mode
  unfold lineTasks
  split
  · exact movesFirst_append (wishTasks_isMove session now .disconnect) (by simp [Task.isMove])
  · rename_i entry _ _
    obtain ⟨moves, others, parted, own, rest⟩ := entryTasks_parted session now entry
    rw [parted, List.append_assoc]
    exact movesFirst_append own fun task listed =>
      (List.mem_append.mp listed).elim (rest task) (prompts task)
  · exact movesFirst_of_unmoved fun task listed =>
      (List.mem_append.mp listed).elim (writeLine_isMove _ task) (prompts task)

theorem dueText_writeLine (session : Session) (text : String) (tasks : List Task) :
    dueText session (writeLine text ++ tasks) = text ++ "\n" ++ dueText session tasks := by
  rw [String.append_assoc]
  rfl

theorem dueText_wishTasks (session : Session) (now : Timestamp) (wish : Wish) (tasks : List Task) :
    dueText session (wishTasks session now wish ++ tasks) =
      dueText (sessionAfter session (wishTasks session now wish)) tasks := by
  cases wish <;> rfl

theorem dueText_entryTasks (session : Session) (now : Timestamp) (entry : Entry)
    (tasks : List Task) : dueText session (entryTasks session now entry ++ tasks) =
      reply entry ++ dueText (afterEntry session entry) tasks := by
  cases entry with
  | blank | quit | say | users | direct => exact String.empty_append.symm
  | help =>
      rw [entryTasks, dueText_writeLine]
      rfl
  | join room =>
      rw [entryTasks, List.append_assoc, dueText_wishTasks, dueText_writeLine]
      rfl

theorem sessionAfter_entryTasks (session : Session) (now : Timestamp) (entry : Entry)
    (tasks : List Task) : sessionAfter session (entryTasks session now entry ++ tasks) =
      sessionAfter (afterEntry session entry) tasks := by
  cases entry <;> rfl

-- A console that leaves prints nothing more and keeps its session.
theorem leaveTasks_rendered (session : Session) (now : Timestamp) :
    dueText session (leaveTasks session now) = "" ∧
      sessionAfter session (leaveTasks session now) = session :=
  ⟨rfl, rfl⟩

-- The tasks for a line print its block and leave the session as it is after the line.
theorem lineTasks_rendered {octets : List UInt8} {line : String} (session : Session)
    (now : Timestamp) (decoded : Text.Utf8.decode octets = .ok line) :
    dueText session (lineTasks session .text now (stripLineEnd line)) =
        block session (.line octets) ∧
      sessionAfter session (lineTasks session .text now (stripLineEnd line)) =
        afterItem session (.line octets) := by
  have means : entryOf octets = .ok (Entry.parse (stripLineEnd line)) := by
    rw [entryOf, decoded]
    rfl
  have prompted (other : Session) : dueText other (promptTasks .text) = prompt other :=
    String.append_empty
  rw [lineTasks, block, afterItem, means]
  cases parsed : Entry.parse (stripLineEnd line) with
  | error reason =>
      simp only
      rw [dueText_writeLine, prompted]
      exact ⟨rfl, rfl⟩
  | ok entry =>
      cases entry with
      | quit => exact ⟨rfl, rfl⟩
      | blank | say | help | users | join | direct =>
          simp only
          rw [dueText_entryTasks, sessionAfter_entryTasks, prompted]
          exact ⟨rfl, rfl⟩

theorem dueText_eventTasks (session : Session) (event : Event) :
    dueText session (eventTasks session event .text) = block session (.event event) := by
  rw [eventTasks, dueText_writeLine]
  exact congrArg _ String.append_empty

theorem eventTasks_isMove (session : Session) (event : Event) (mode : Mode) :
    ∀ task ∈ eventTasks session event mode, task.isMove = false := by
  cases mode <;> simp [eventTasks, writeLine, Task.isMove]

namespace Console

variable {console next : Console} {happening : Happening} {start : Session} {items : List Item}

def output (console : Console) : String :=
  console.written.foldl (· ++ ·) ""

def offered (console : Console) : List Item :=
  match nextInput console.pending console.inputEnded with
  | .waiting => []
  | .ended => [.close]
  | .line octets _ => [.line octets]

def turnsTo (console : Console) : Happening → List Item
  | .took event => [.event event]
  | .read => console.offered
  | .supplied _ | .sent _ | .refused | .worked => []

/-- A console in text mode that has turned to these items, coming from this session. As long as it
goes on it has printed and has yet to print what the items come to. -/
structure Renders (console : Console) (start : Session) (items : List Item) : Prop where
  text : console.mode = .text
  free : console.sink = .unlimited
  sorted : MovesFirst console.tasks
  whole : console.outcome = none →
    console.output ++ dueText console.session console.tasks = rendition start items
  session : console.outcome = none →
    sessionAfter console.session console.tasks = items.foldl afterItem start
  fresh : console.outcome = none → (∃ task ∈ console.tasks, task.isMove = true) →
    console.output = renditionBefore start items
  done : console.outcome = some (.ok ()) → console.output = rendition start items
  failed : ∀ reason, console.outcome = some (.error reason) →
    console.output = renditionBefore start items

theorem create_renders (session : Session) (now : Timestamp) :
    (create session .text .unlimited now).Renders session [] where
  text := rfl
  free := rfl
  sorted := by
    refine movesFirst_append (wishTasks_isMove session now .connect) fun task listed => ?_
    rcases List.mem_append.mp listed with help | prompts
    · exact writeLine_isMove helpText task help
    · rw [List.mem_singleton.mp prompts]
      rfl
  whole _ := by
    have greets : dueText session (create session .text .unlimited now).tasks =
        helpText ++ "\n" ++ prompt session := by
      rw [create, dueText_wishTasks, dueText_writeLine]
      exact congrArg _ String.append_empty
    refine String.empty_append.trans (greets.trans ?_)
    rw [rendition, blocks, String.append_empty]
  session _ := rfl
  fresh _ _ := rfl
  done := nofun
  failed := nofun

theorem Renders.written (renders : console.Renders start items) :
    ∃ rest, console.output ++ rest = rendition start items := by
  cases outcome : console.outcome with
  | none => exact ⟨_, renders.whole outcome⟩
  | some ended =>
      cases ended with
      | ok => exact ⟨"", by rw [String.append_empty, renders.done outcome]⟩
      | error reason =>
          rw [renders.failed reason outcome]
          exact rendition_of_before start items

-- A console with nothing left to do has printed everything.
theorem Renders.ready (renders : console.Renders start items) (ready : console.isReady = true) :
    console.output = rendition start items ∧ console.session = items.foldl afterItem start := by
  obtain ⟨running, nothing⟩ := isReady_iff.mp ready
  have whole := renders.whole running
  have session := renders.session running
  rw [nothing] at whole session
  exact ⟨String.append_empty.symm.trans whole, session⟩

-- An item that a console turns to, and the tasks that it makes of it.
theorem Renders.turn {item : Item} (renders : console.Renders start items)
    (ready : console.isReady = true) (mode : next.mode = console.mode)
    (free : next.sink = console.sink) (written : next.written = console.written)
    (same : next.session = console.session) (running : next.outcome = none)
    (sorted : MovesFirst next.tasks)
    (text : dueText console.session next.tasks = block console.session item)
    (session : sessionAfter console.session next.tasks = afterItem console.session item) :
    next.Renders start (items ++ [item]) := by
  obtain ⟨printed, here⟩ := renders.ready ready
  have output : next.output = rendition start items := by
    rw [Console.output, written]
    exact printed
  refine ⟨mode.trans renders.text, free.trans renders.free, sorted, fun _ => ?_, fun _ => ?_,
    fun _ _ => ?_, by simp [running], by simp [running]⟩
  · rw [output, same, text, rendition_concat, here]
  · rw [same, session, List.foldl_append, here]
    rfl
  · rw [output, renditionBefore_concat]

theorem Renders.read {now : Timestamp} (renders : console.Renders start items)
    (ready : console.isReady = true) (reads : console.readLine? now = some next) :
    next.Renders start (items ++ console.offered) := by
  have running := (isReady_iff.mp ready).1
  unfold offered
  cases readsTo_of_readLine? reads with
  | ended found =>
      rw [found]
      obtain ⟨text, session⟩ := leaveTasks_rendered console.session now
      have sorted : MovesFirst (leaveTasks console.session now) :=
        movesFirst_append (wishTasks_isMove _ now .disconnect) (by simp [Task.isMove])
      exact renders.turn ready rfl rfl rfl rfl running sorted text session
  | garbled octets rest fault found =>
      rw [found]
      refine ⟨renders.text, renders.free, .nil, nofun, nofun, nofun, nofun, fun _ _ => ?_⟩
      rw [renditionBefore_concat]
      exact (renders.ready ready).1
  | line octets rest line found decoded =>
      rw [found, renders.text]
      obtain ⟨text, session⟩ := lineTasks_rendered console.session now decoded
      have sorted := lineTasks_movesFirst console.session .text now (stripLineEnd line)
      -- Which tasks they are is said, and need not be computed.
      generalize lineTasks console.session .text now (stripLineEnd line) = tasks at *
      exact renders.turn ready renders.text.symm rfl rfl rfl running sorted text session

theorem Renders.print {text : String} {task : Task} {tasks : List Task}
    (renders : console.Renders start items) (first : console.tasks = task :: tasks)
    (running : console.outcome = none) (prints : task.text? console.session = some text)
    (emits : Emits { console with tasks } text next) : next.Renders start items := by
  have sorted := renders.sorted
  have whole := renders.whole running
  have session := renders.session running
  rw [first] at sorted whole session
  rw [dueText_of_text prints, ← String.append_assoc] at whole
  rw [sessionAfter_of_text prints] at session
  have quiet := sorted.unmoved (isMove_of_text prints)
  obtain rfl := emits.of_unlimited renders.free
  have output : Console.output { console with tasks, written := console.written ++ [text] } =
      console.output ++ text := List.foldl_append ..
  refine ⟨renders.text, renders.free, (List.pairwise_cons.mp sorted).2, fun _ => ?_,
    fun _ => session, fun _ moves => ?_, by simp [running], by simp [running]⟩
  · rw [output]
    exact whole
  · obtain ⟨later, listed, moves⟩ := moves
    cases (quiet later (List.mem_cons_of_mem _ listed)).symm.trans moves

/-- Whatever happens, what has been printed and is due comes to the items that the console has
turned to. -/
theorem Renders.goes (settled : console.Settled) (renders : console.Renders start items)
    (goes : console.Goes happening next) :
    next.Renders start (items ++ console.turnsTo happening) := by
  cases goes with
  | feed | endInput =>
      rw [turnsTo, List.append_nil]
      exact ⟨renders.text, renders.free, renders.sorted, renders.whole, renders.session,
        renders.fresh, renders.done, renders.failed⟩
  | send command tasks first | enter room tasks first =>
      have running := settled.running first
      have sorted := renders.sorted
      have whole := renders.whole running
      have session := renders.session running
      have fresh := renders.fresh running
      rw [first] at sorted whole session fresh
      rw [turnsTo, List.append_nil]
      refine ⟨renders.text, renders.free, (List.pairwise_cons.mp sorted).2, fun _ => whole,
        fun _ => session, fun _ _ => fresh ⟨_, List.mem_cons_self, rfl⟩, renders.done,
        renders.failed⟩
  | refuse command tasks first =>
      have fresh := renders.fresh (settled.running first)
      rw [first] at fresh
      rw [turnsTo, List.append_nil]
      exact ⟨renders.text, renders.free, .nil, nofun, nofun, nofun, nofun,
        fun _ _ => fresh ⟨_, List.mem_cons_self, rfl⟩⟩
  | print task text tasks _ first prints emits =>
      rw [turnsTo, List.append_nil]
      exact renders.print first (settled.running first) prints emits
  | finish tasks _ first finishes =>
      have whole := renders.whole (settled.running first)
      rw [first] at whole
      obtain rfl := finishes.of_unlimited renders.free
      rw [turnsTo, List.append_nil]
      exact ⟨renders.text, renders.free, .nil, nofun, nofun, nofun,
        fun _ => String.append_empty.symm.trans whole, nofun⟩
  | read now _ ready reads => exact renders.read ready reads
  | take event ready =>
      have tasks : (console.take event).tasks = eventTasks console.session event .text :=
        congrArg (eventTasks console.session event) renders.text
      refine renders.turn ready rfl rfl rfl rfl (isReady_iff.mp ready).1 ?_ ?_ ?_
      · rw [tasks]
        exact movesFirst_of_unmoved (eventTasks_isMove _ _ _)
      · rw [tasks, dueText_eventTasks]
      · rw [tasks]
        rfl

end Console
end ChatRooms.Terminal
