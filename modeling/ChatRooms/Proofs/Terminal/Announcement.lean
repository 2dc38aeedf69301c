import ChatRooms.Proofs.Terminal.Happening

/-! What a console prints in text mode. An event is printed over the prompt and nothing else is; so
the lines that overprint are those of the events that were taken, in their order, each with the room
that the session was in when it took the event. -/
namespace ChatRooms.Terminal

def overprint (event : Event) (room : String) : String :=
  "\r" ++ render event room

def overprints (text : String) : Bool :=
  text.toList.head? = some '\r'

def Task.line? : Task → Option String
  | .write text => some text
  | _ => none

def dueOf (tasks : List Task) : List String :=
  (tasks.filterMap Task.line?).filter overprints

theorem overprints_append {first : String} (some_first : first.toList ≠ []) (rest : String) :
    overprints (first ++ rest) = overprints first := by
  rw [overprints, overprints, String.toList_append, List.head?_append]
  cases start : first.toList with
  | nil => exact absurd start some_first
  | cons c more => rfl

theorem overprints_overprint (event : Event) (room : String) :
    overprints (overprint event room) = true :=
  @overprints_append "\r" (by decide) (render event room)

-- The line for the users of a room tells which room it is.
theorem overprint_users_inj (names : List String) {first second : String} :
    overprint (.users names) first = overprint (.users names) second ↔ first = second := by
  refine ⟨fun same => ?_, fun same => same ▸ rfl⟩
  have lines := (String.append_right_inj _).mp same
  simp only [render] at lines
  split at lines
  · exact (String.append_right_inj _).mp lines
  · have labels := (String.append_left_inj _).mp ((String.append_left_inj _).mp lines)
    exact (String.append_right_inj _).mp labels

theorem overprints_prompt (session : Session) : overprints (prompt session) = false := by
  unfold prompt
  rw [String.append_assoc, String.append_assoc, String.append_assoc,
    overprints_append (by decide)]
  decide

theorem overprints_message (reason : EntryError) : overprints reason.message = false := by
  cases reason with
  | joinUsage | directUsage => decide
  | unknown word =>
      have message : (EntryError.unknown word).message =
          "Unknown command: " ++ (word ++ "  (type /help)") := String.append_assoc
      rw [message, overprints_append (by decide)]
      decide

theorem overprints_helpText : overprints helpText = false := by
  unfold helpText
  simp only [String.append_assoc]
  rw [overprints_append (by decide)]
  decide

theorem overprints_newline : overprints "\n" = false := by decide

theorem dueOf_append (first second : List Task) : dueOf (first ++ second) =
    dueOf first ++ dueOf second := by
  simp [dueOf]

theorem dueOf_writeLine {text : String} (plain : overprints text = false) :
    dueOf (writeLine text) = [] := by
  simp [dueOf, writeLine, Task.line?, plain]

theorem dueOf_wishTasks (session : Session) (now : Timestamp) (wish : Wish) :
    dueOf (wishTasks session now wish) = [] := by
  have silent : (wishTasks session now wish).filterMap Task.line? = [] := by
    apply List.filterMap_eq_nil_iff.mpr
    intro task listed
    obtain ⟨move, _, rfl⟩ := List.mem_map.mp listed
    rfl
  rw [dueOf, silent]
  rfl

theorem dueOf_promptTasks (mode : Mode) : dueOf (promptTasks mode) = [] := by
  cases mode <;> rfl

theorem dueOf_leaveTasks (session : Session) (now : Timestamp) :
    dueOf (leaveTasks session now) = [] := by
  rw [leaveTasks, dueOf_append, dueOf_wishTasks]
  rfl

theorem dueOf_entryTasks (session : Session) (now : Timestamp) (entry : Entry) :
    dueOf (entryTasks session now entry) = [] := by
  cases entry with
  | blank | quit => rfl
  | help => exact dueOf_writeLine overprints_helpText
  | say content => exact dueOf_wishTasks session now (.post content)
  | users => exact dueOf_wishTasks session now .listUsers
  | direct recipient content => exact dueOf_wishTasks session now (.direct recipient content)
  | join room =>
      have plain : overprints ("Joined room: " ++ room) = false := by
        rw [overprints_append (by decide)]
        decide
      rw [entryTasks, dueOf_append, dueOf_wishTasks, dueOf_writeLine plain]
      rfl

-- No line of input makes a console overprint, whatever it asks for.
theorem dueOf_lineTasks (session : Session) (mode : Mode) (now : Timestamp) (line : String) :
    dueOf (lineTasks session mode now line) = [] := by
  unfold lineTasks
  split
  · exact dueOf_leaveTasks session now
  · rw [dueOf_append, dueOf_entryTasks, dueOf_promptTasks]
    rfl
  · rw [dueOf_append, dueOf_writeLine (overprints_message _), dueOf_promptTasks]
    rfl

theorem dueOf_eventTasks (session : Session) (event : Event) :
    dueOf (eventTasks session event .text) = [overprint event session.room] := by
  have shown := overprints_overprint event session.room
  unfold overprint at shown
  simp [dueOf, eventTasks, writeLine, Task.line?, overprint, shown]

-- The end of a line and a prompt are not printed over anything.
theorem dueOf_cons {session : Session} {task : Task} {text : String}
    (prints : task.text? session = some text) (tasks : List Task) :
    dueOf (task :: tasks) = [text].filter overprints ++ dueOf tasks := by
  cases task with
  | move | finish => contradiction
  | write =>
      cases prints
      rw [dueOf, dueOf, ← List.filter_append]
      rfl
  | endLine =>
      cases prints
      rw [List.filter_cons, overprints_newline]
      rfl
  | prompt =>
      cases prints
      rw [List.filter_cons, overprints_prompt]
      rfl

namespace Console

variable {console next : Console} {happening : Happening} {lines : List String}

theorem readLine?_mode {now : Timestamp} (reads : console.readLine? now = some next) :
    next.mode = console.mode := by
  cases readsTo_of_readLine? reads <;> rfl

theorem Goes.mode (goes : console.Goes happening next) : next.mode = console.mode := by
  cases goes with
  | print task text tasks _ first prints emits => cases emits <;> rfl
  | finish tasks _ first finishes => cases finishes <;> rfl
  | read now _ _ reads => exact readLine?_mode reads
  | feed | endInput | send | refuse | enter | take => rfl

theorem Reaches.mode {happenings : List Happening} (reaches : console.Reaches happenings next) :
    next.mode = console.mode := by
  induction reaches with
  | none => rfl
  | next goes _ ih => exact ih.trans goes.mode

def announced (console : Console) : List String :=
  console.written.filter overprints

/-- A console in text mode has printed a part of these lines, and prints the others as long as it
goes on. -/
structure Announces (console : Console) (lines : List String) : Prop where
  text : console.mode = .text
  part : console.announced <+: lines
  whole : console.outcome = none → console.announced ++ dueOf console.tasks = lines

theorem create_announces (session : Session) (sink : Sink) (now : Timestamp) :
    (create session .text sink now).Announces [] := by
  refine ⟨rfl, List.nil_prefix, fun _ => ?_⟩
  have greets : dueOf (create session .text sink now).tasks = [] := by
    simp only [create]
    rw [dueOf_append, dueOf_wishTasks, dueOf_append, dueOf_writeLine overprints_helpText]
    rfl
  rw [greets]
  rfl

theorem Announces.conclude (announces : console.Announces lines)
    (outcome : Except ConsoleError Unit) : (console.conclude outcome).Announces lines :=
  ⟨announces.text, announces.part, nofun⟩

theorem announces_of_whole {tasks : List Task} (text : console.mode = .text)
    (whole : console.announced ++ dueOf tasks = lines) :
    Announces { console with tasks } lines :=
  ⟨text, ⟨dueOf tasks, whole⟩, fun _ => whole⟩

theorem Announces.emits {tasks : List Task} {text : String} (announces : console.Announces lines)
    (whole : console.announced ++ ([text].filter overprints ++ dueOf tasks) = lines)
    (emits : Emits { console with tasks } text next) : next.Announces lines := by
  have goes_on : (console.written ++ [text]).filter overprints ++ dueOf tasks = lines := by
    rw [List.filter_append, List.append_assoc]
    exact whole
  cases emits with
  | whole => exact ⟨announces.text, ⟨_, goes_on⟩, fun _ => goes_on⟩
  | closed sink written _ _ either =>
      refine ⟨announces.text, ?_, nofun⟩
      rcases either with rfl | rfl
      · exact announces.part
      · exact ⟨_, goes_on⟩

theorem Announces.read {now : Timestamp} (announces : console.Announces lines)
    (ready : console.isReady = true) (reads : console.readLine? now = some next) :
    next.Announces lines := by
  obtain ⟨running, nothing⟩ := isReady_iff.mp ready
  have whole := announces.whole running
  rw [nothing] at whole
  cases readsTo_of_readLine? reads with
  | ended =>
      refine announces_of_whole announces.text ?_
      rw [dueOf_leaveTasks]
      exact whole
  | garbled => exact ⟨announces.text, announces.part, nofun⟩
  | line octets rest line =>
      have silent := dueOf_lineTasks console.session console.mode now (stripLineEnd line)
      refine ⟨announces.text, announces.part, fun _ => ?_⟩
      change console.announced ++ dueOf (lineTasks _ _ _ _) = lines
      rw [silent]
      exact whole

/-- What is taken is announced in the room that the session is in. -/
theorem Announces.take {event : Event} (announces : console.Announces lines)
    (ready : console.isReady = true) :
    (console.take event).Announces (lines ++ [overprint event console.session.room]) := by
  obtain ⟨running, nothing⟩ := isReady_iff.mp ready
  have whole := announces.whole running
  rw [nothing] at whole
  have printed : console.announced = lines := (List.append_nil _).symm.trans whole
  refine announces_of_whole announces.text ?_
  rw [announces.text, dueOf_eventTasks, printed]

/-- Nothing else is announced, whatever else happens. -/
theorem Announces.goes (settled : console.Settled) (announces : console.Announces lines)
    (goes : console.Goes happening next) (untaken : happening.took? = none) :
    next.Announces lines := by
  cases goes with
  | take event ready => contradiction
  | feed | endInput => exact ⟨announces.text, announces.part, announces.whole⟩
  | read now _ ready reads => exact announces.read ready reads
  | refuse command tasks first => exact ⟨announces.text, announces.part, nofun⟩
  | finish tasks _ first finishes =>
      cases finishes <;> exact ⟨announces.text, announces.part, nofun⟩
  | send command tasks first | enter room tasks first =>
      have whole := announces.whole (settled.running first)
      rw [first] at whole
      exact ⟨announces.text, announces.part, fun _ => whole⟩
  | print task text tasks _ first prints emits =>
      have whole := announces.whole (settled.running first)
      rw [first, dueOf_cons prints] at whole
      exact announces.emits whole emits

end Console
end ChatRooms.Terminal
