import ChatRooms.Proofs.Server.Scripted
import ChatRooms.Proofs.Server.Stamps
import ChatRooms.Proofs.Terminal.Transcript

/-! What a session in JSON mode was told can be recovered from its output. The events found there,
line by line, are those that the console took, and these are the first of all that were delivered.
-/
namespace ChatRooms.Venue

open Server Terminal

variable {venue : Venue} {id : ClientId} {console : Console}

theorem transcript_of_run (deeds : List Deed) (orderly : venue.server.Orderly)
    (found : venue.server.console? id = some console) (transcribes : console.Transcribes []) :
    ∃ next, (venue.play deeds).server.console? id = some next ∧
      (next.hasEnded = true ∨ next.tasks = [] →
        readBack (outputOf next.written) =
          (gather (taken id) venue deeds).map Event.asWritten) ∧
      ∃ left, (venue.server.mail.box id).queue ++ gather (delivered id) venue deeds =
          gather (taken id) venue deeds ++ left ∧
        (next.hasEnded = false → left = ((venue.play deeds).server.mail.box id).queue) := by
  obtain ⟨next, happenings, unfolds⟩ := play_unfolds deeds orderly found
  refine ⟨next, unfolds.found, fun still => ?_, unfolds.drawn⟩
  have settled := unfolds.reaches.settled (orderly.settled console (console_listed found).2)
  have nothing : next.tasks = [] := still.elim settled fun same => same
  have prints := (transcribes.reaches unfolds.reaches).prints
  rw [nothing] at prints
  rw [unfolds.took]
  exact prints.settled.2

theorem taken_regular {deeds : List Deed} {left : List Event}
    (clock : ∀ deed ∈ deeds, ∀ at_ ∈ deed.reading?, at_.IsRegular)
    (recorded : venue.server.hub.state.exchange.Regular)
    (drawn : (venue.server.mail.box id).queue ++ gather (delivered id) venue deeds =
      gather (taken id) venue deeds ++ left) :
    ∀ event ∈ gather (taken id) venue deeds, event.IsRegular := by
  intro event listed
  have among : event ∈ (venue.server.mail.box id).queue ++ gather (delivered id) venue deeds :=
    drawn ▸ List.mem_append_left left listed
  rcases List.mem_append.mp among with waiting | told
  · exact recorded.mail id event waiting
  · exact delivered_regular id deeds clock recorded event told

/-- A program that reads the output of a session in JSON mode line by line, and passes over the
lines that are no events, finds exactly the events that the session took, in their order, with
their stamps as they are written; and so these events themselves if the clock of the hub reads no
leap second within a minute, as a clock that counts seconds does not. These events are the first of
those that were in its mailbox when it was left to the console and of those delivered since; and
until the console ends, the others are still in the mailbox. An event takes one line, and nothing
that the console answers is an event, whatever room or command was typed. -/
theorem deliveries_recovered (config : Config) (start : Venue) (before after : List Deed)
    (owner : ClientId) (seat : Seat) (now : Timestamp) (started : start? config = some start)
    (leisure : (start.play before).AtLeisure owner seat) :
    let attended := (start.play before).perform (.attend owner .json .unlimited now)
    let told := gather (taken owner) attended after
    (∃ console, (attended.play after).server.console? owner = some console ∧
      (console.hasEnded = true ∨ console.tasks = [] →
        readBack (outputOf console.written) = told.map Event.asWritten ∧
          ((∀ deed ∈ before ++ after, ∀ at_ ∈ deed.reading?, at_.IsRegular) →
            readBack (outputOf console.written) = told)) ∧
      ∃ left, ((start.play before).server.mail.box owner).queue ++
          gather (delivered owner) attended after = told ++ left ∧
        (console.hasEnded = false →
          left = ((attended.play after).server.mail.box owner).queue)) ∧
    (∀ event, '\n' ∉ (Wire.renderEvent event).toList) ∧
    (∀ room, eventOf? (Text.Utf8.encode ("Joined room: " ++ room)) = none) ∧
    (∀ reason : EntryError, eventOf? (Text.Utf8.encode reason.message) = none) ∧
    readBack (Text.Utf8.encode helpText) = [] := by
  intro attended told
  have orderly_before := play_orderly before (start_orderly started)
  have orderly : attended.server.Orderly := perform_orderly _ orderly_before
  have found := leisure.attended orderly_before .json .unlimited now
  have mail : attended.server.mail = (start.play before).server.mail := by
    rw [leisure.attend]
    rfl
  refine ⟨?_, Wire.newline_not_mem_renderEvent, ?_, ?_, help_has_no_event⟩
  · obtain ⟨console, there, read, left, drawn, waiting⟩ :=
      transcript_of_run after orderly found (Console.create_transcribes seat.session now)
    refine ⟨console, there, fun still => ⟨read still, fun clock => ?_⟩, left, mail ▸ drawn, waiting⟩
    have recorded : attended.server.hub.state.exchange.Regular :=
      perform_regular (fun _ found => nomatch found)
        (play_regular before (fun deed listed => clock deed (List.mem_append_left after listed))
          (start_regular started))
    have regular := taken_regular
      (fun deed listed => clock deed (List.mem_append_right before listed)) recorded drawn
    have same : ∀ event ∈ told, event.asWritten = event := fun event listed =>
      event.asWritten_eq_iff.mpr (regular event listed)
    rw [read still, List.map_congr_left same, List.map_id']
  · intro room
    rw [eventOf?_encode, joined_is_no_event]
  · intro reason
    rw [eventOf?_encode, entryError_is_no_event]

theorem deliveries_recovered_of_users :
    let now : Timestamp := ⟨0, 0, by decide, by decide, by decide⟩
    let config : Config := ⟨"general", 20, 8, 64⟩
    let ann : ClientId := ⟨2⟩
    let hub : Deed := .act (.turn .enrolled now .hub)
    let task : Deed := .act (.turn .enrolled now (.task ann))
    let line : Deed := .act (.turn .enrolled now (.line ann))
    let start : Venue :=
      ⟨⟨config, ⟨Service.create config, ⟨⟨8, [], true⟩, 1⟩, .scheduled, .armed⟩, [], [], 2⟩,
        fun _ => .shared []⟩
    let before : List Deed := [.act (.openSession "ann" "")]
    let attended := (start.play before).perform (.attend ann .json .unlimited now)
    let after : List Deed :=
      [task, .act (.feed ann ("/join rust\n/users\n".toList.map fun c => UInt8.ofNat c.toNat)),
        line, task, task, task, task, task, line, task, hub, hub, hub, hub, hub,
        .act (.turn .enrolled now (.event ann)), task, task]
    ∃ console, (attended.play after).server.console? ann = some console ∧
      console.written =
        ["Joined room: rust", "\n", "\x7b\"type\":\"users\",\"user_names\":[\"ann\"]\x7d", "\n"] ∧
      readBack (outputOf console.written) = [.users ["ann"]] := by
  intro now config ann hub task line start before attended after
  have leisure : (start.play before).AtLeisure ann ⟨⟨ann, "ann", "general"⟩, true, true⟩ :=
    ⟨by decide +kernel, rfl, rfl, by decide +kernel⟩
  obtain ⟨⟨console, found, recovered, -⟩, -⟩ :=
    deliveries_recovered config start before after ann ⟨⟨ann, "ann", "general"⟩, true, true⟩ now rfl
      leisure
  have here : ((attended.play after).server.console? ann).map
      (fun console => (console.written, console.tasks)) =
      some (["Joined room: rust", "\n", "\x7b\"type\":\"users\",\"user_names\":[\"ann\"]\x7d",
        "\n"], []) := by
    decide +kernel
  have told : gather (taken ann) attended after = [.users ["ann"]] := by decide +kernel
  rw [found] at here
  obtain ⟨written, idle⟩ := Prod.ext_iff.mp (Option.some.inj here)
  exact ⟨console, found, written, ((recovered (Or.inr idle)).2 (by decide +kernel)).trans told⟩

end ChatRooms.Venue
