import ChatRooms.Proofs.Terminal.Replies

/-! The output of a console in JSON mode is a transcript of the events that it takes, with their
stamps as they are written. Between two lines the events read back are those taken; an event is
taken only there, and its line is written before anything else is done. -/
namespace ChatRooms.Terminal

inductive Reply : List Task → Prop where
  | none : Reply []
  | leave : Reply [.finish]
  | line (text : String) (mute : readBack (Text.Utf8.encode text) = []) : Reply (writeLine text)

/-- What an output of whole lines, or of a line that lacks its line feed, tells of the events taken,
given what is left to do. -/
inductive Prints (taken : List Event) : List UInt8 → List Task → Prop where
  | between (octets : List UInt8) (moves : List Move) (reply : List Task) (whole : Whole octets)
      (told : readBack octets = taken) (replies : Reply reply) :
      Prints taken octets (moves.map .move ++ reply)
  | line (octets : List UInt8) (text : String) (whole : Whole octets)
      (told : readBack octets ++ readBack (Text.Utf8.encode text) = taken) :
      Prints taken octets (writeLine text)
  | feed (octets : List UInt8) (text : String) (whole : Whole octets)
      (told : readBack octets ++ readBack (Text.Utf8.encode text) = taken) :
      Prints taken (octets ++ Text.Utf8.encode text) [.endLine]

variable {taken : List Event} {octets : List UInt8} {tasks : List Task}

theorem reply_of_join {room : String} (plain : '\n' ∉ room.toList) :
    Reply (writeLine ("Joined room: " ++ room)) := by
  refine .line _ ?_
  rw [readBack_line, joined_is_no_event]
  · rfl
  · rw [String.toList_append, List.mem_append, not_or]
    exact ⟨by decide, plain⟩

theorem reply_of_error {reason : EntryError} (plain : '\n' ∉ reason.message.toList) :
    Reply (writeLine reason.message) := by
  refine .line _ ?_
  rw [readBack_line plain, entryError_is_no_event]
  rfl

-- A line without a line feed inside is answered by moves and at most one line, which is no event.
theorem lineTasks_reply {line : String} (session : Session) (now : Timestamp)
    (plain : '\n' ∉ line.toList) : ∃ (moves : List Move) (reply : List Task),
      lineTasks session .json now line = moves.map .move ++ reply ∧ Reply reply := by
  have answer := parse_plain plain
  unfold lineTasks
  cases parsed : Entry.parse line with
  | error reason =>
      refine ⟨[], writeLine reason.message, ?_, reply_of_error (answer.error reason parsed)⟩
      simp [promptTasks]
  | ok entry =>
      cases entry with
      | quit => exact ⟨session.moves now .disconnect, [.finish], rfl, .leave⟩
      | blank => exact ⟨[], [], rfl, .none⟩
      | help => exact ⟨[], writeLine helpText, rfl, .line _ help_has_no_event⟩
      | say content => exact ⟨session.moves now (.post content), [], rfl, .none⟩
      | users => exact ⟨session.moves now .listUsers, [], rfl, .none⟩
      | direct recipient content =>
          exact ⟨session.moves now (.direct recipient content), [], rfl, .none⟩
      | join room =>
          refine ⟨session.moves now (.switchRoom room), writeLine ("Joined room: " ++ room), ?_,
            reply_of_join (answer.room room parsed)⟩
          simp [entryTasks, wishTasks, promptTasks]

theorem Prints.settled (prints : Prints taken octets []) :
    Whole octets ∧ readBack octets = taken := by
  generalize nothing : ([] : List Task) = tasks at prints
  cases prints with
  | between _ moves reply whole told replies => exact ⟨whole, told⟩
  | line | feed => contradiction

theorem prints_of_settled (whole : Whole octets) (told : readBack octets = taken) :
    Prints taken octets [] :=
  .between octets [] [] whole told .none

-- Moves are made between two lines.
theorem Prints.move {move : Move} (prints : Prints taken octets (.move move :: tasks)) :
    Prints taken octets [] ∧ Prints taken octets tasks := by
  generalize all : Task.move move :: tasks = before at prints
  cases prints with
  | line | feed => simp [writeLine] at all
  | between _ moves reply whole told replies =>
      refine ⟨prints_of_settled whole told, ?_⟩
      cases moves with
      | nil => cases replies <;> simp [writeLine] at all
      | cons first rest =>
          obtain ⟨_, rfl⟩ := List.cons.inj all
          exact .between octets rest reply whole told replies

theorem Prints.finish (prints : Prints taken octets (.finish :: tasks)) :
    Prints taken octets [] := by
  generalize all : Task.finish :: tasks = before at prints
  cases prints with
  | line | feed => simp [writeLine] at all
  | between _ moves reply whole told replies => exact prints_of_settled whole told

theorem Prints.no_prompt : ¬Prints taken octets (.prompt :: tasks) := by
  intro prints
  generalize all : Task.prompt :: tasks = before at prints
  cases prints with
  | line | feed => simp [writeLine] at all
  | between _ moves reply whole told replies =>
      cases moves with
      | nil => cases replies <;> simp [writeLine] at all
      | cons first rest => simp at all

theorem encode_feed : Text.Utf8.encode "\n" = [newline] := by decide

theorem Prints.write {text : String} (prints : Prints taken octets (.write text :: tasks)) :
    Prints taken (octets ++ Text.Utf8.encode text) tasks := by
  generalize all : Task.write text :: tasks = before at prints
  cases prints with
  | between _ moves reply whole told replies =>
      cases moves with
      | cons first rest => simp at all
      | nil =>
          cases replies with
          | none | leave => simp at all
          | line text mute =>
              obtain ⟨same, rfl⟩ := List.cons.inj all
              cases same
              exact .feed octets text whole (by rw [mute, List.append_nil, told])
  | line _ text whole told =>
      obtain ⟨same, rfl⟩ := List.cons.inj all
      cases same
      exact .feed octets text whole told
  | feed => simp at all

theorem Prints.endLine (prints : Prints taken octets (.endLine :: tasks)) :
    Prints taken (octets ++ Text.Utf8.encode "\n") tasks := by
  generalize all : Task.endLine :: tasks = before at prints
  cases prints with
  | between _ moves reply whole told replies =>
      cases moves with
      | cons first rest => simp at all
      | nil => cases replies <;> simp [writeLine] at all
  | line => simp [writeLine] at all
  | feed octets line whole told =>
      obtain ⟨-, rfl⟩ := List.cons.inj all
      have nothing : readBack [] = [] := by decide
      rw [encode_feed]
      refine prints_of_settled (whole_newline _) ?_
      rw [List.append_assoc, readBack_append whole, readBack_newline, nothing, List.append_nil,
        told]

theorem Prints.text {session : Session} {task : Task} {text : String}
    (prints : Prints taken octets (task :: tasks)) (shown : task.text? session = some text) :
    Prints taken (octets ++ Text.Utf8.encode text) tasks := by
  cases task with
  | move | finish => contradiction
  | prompt => exact absurd prints Prints.no_prompt
  | write =>
      cases shown
      exact prints.write
  | endLine =>
      cases shown
      exact prints.endLine

def outputOf (written : List String) : List UInt8 :=
  written.flatMap Text.Utf8.encode

namespace Console

variable {console next : Console} {happening : Happening} {happenings : List Happening}

structure Transcribes (console : Console) (taken : List Event) : Prop where
  json : console.mode = .json
  free : console.sink = .unlimited
  prints : Prints taken (outputOf console.written) console.tasks

theorem Transcribes.read {now : Timestamp} (transcribes : console.Transcribes taken)
    (ready : console.isReady = true) (reads : console.readLine? now = some next) :
    next.Transcribes taken := by
  obtain ⟨json, free, prints⟩ := transcribes
  rw [(isReady_iff.mp ready).2] at prints
  obtain ⟨whole, told⟩ := prints.settled
  cases readsTo_of_readLine? reads with
  | ended =>
      exact ⟨json, free, .between _ (console.session.moves now .disconnect) _ whole told .leave⟩
  | garbled => exact ⟨json, free, prints⟩
  | line octets rest text found decoded =>
      obtain ⟨line, line_plain, form⟩ := nextInput_plain found
      have plain := stripLineEnd_plain line_plain form decoded
      obtain ⟨moves, reply, same, replies⟩ := lineTasks_reply console.session now plain
      refine ⟨json, free, ?_⟩
      change Prints taken _ (lineTasks console.session console.mode now _)
      rw [json, same]
      exact .between _ moves reply whole told replies

/-- Whatever happens, what is taken is told, and nothing else is. -/
theorem Transcribes.goes (transcribes : console.Transcribes taken)
    (goes : console.Goes happening next) :
    next.Transcribes (taken ++ happening.took?.toList.map Event.asWritten) := by
  obtain ⟨json, free, prints⟩ := transcribes
  cases goes with
  | take event ready =>
      rw [(isReady_iff.mp ready).2] at prints
      obtain ⟨whole, told⟩ := prints.settled
      refine ⟨json, free, ?_⟩
      change Prints _ _ (eventTasks console.session event console.mode)
      rw [json]
      refine .line _ (Wire.renderEvent event) whole ?_
      rw [readBack_renderEvent]
      exact congrArg (· ++ [event.asWritten]) told
  | read now _ ready reads =>
      have read := Transcribes.read ⟨json, free, prints⟩ ready reads
      simpa [Happening.took?] using read
  | feed | endInput =>
      simp only [Happening.took?, Option.toList_none, List.map_nil, List.append_nil]
      exact ⟨json, free, prints⟩
  | send command tasks first | enter room tasks first =>
      simp only [Happening.took?, Option.toList_none, List.map_nil, List.append_nil]
      rw [first] at prints
      exact ⟨json, free, prints.move.2⟩
  | refuse command tasks first =>
      simp only [Happening.took?, Option.toList_none, List.map_nil, List.append_nil]
      rw [first] at prints
      exact ⟨json, free, prints.move.1⟩
  | finish tasks _ first finishes =>
      simp only [Happening.took?, Option.toList_none, List.map_nil, List.append_nil]
      rw [first] at prints
      obtain rfl := finishes.of_unlimited free
      exact ⟨json, free, prints.finish⟩
  | print task text tasks _ first shown emits =>
      simp only [Happening.took?, Option.toList_none, List.map_nil, List.append_nil]
      rw [first] at prints
      obtain rfl := emits.of_unlimited free
      refine ⟨json, free, ?_⟩
      simpa [outputOf] using prints.text shown

theorem Transcribes.reaches (transcribes : console.Transcribes taken)
    (reaches : console.Reaches happenings next) :
    next.Transcribes (taken ++ (happenings.filterMap Happening.took?).map Event.asWritten) := by
  induction reaches generalizing taken with
  | none => simpa using transcribes
  | @next _ _ _ happening rest goes _ ih =>
      have later := ih (transcribes.goes goes)
      cases took : happening.took? <;> simpa [took] using later

theorem create_transcribes (session : Session) (now : Timestamp) :
    (create session .json .unlimited now).Transcribes [] where
  json := rfl
  free := rfl
  prints := .between [] (session.moves now .connect) [] (by simp [Whole]) (by decide) .none

end Console
end ChatRooms.Terminal
