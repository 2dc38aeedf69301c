import ChatRooms.Proofs.Hub.Confinement
import ChatRooms.Proofs.Server.ListRequests
import ChatRooms.Proofs.Server.Shutdown
import ChatRooms.Proofs.Terminal.Announcement

/-! The lists of users that a console prints. Every list is the answer to a question that the
session asked, it names the users of the room that was asked about at the moment when the hub
looked, and it is printed in the order of the questions. What it does not carry is the room: the
line has that in which the session is when it takes the answer, and a session can have gone to
another one by then. -/
namespace ChatRooms

namespace Venue

open Server Terminal

variable {venue start : Venue} {id owner : ClientId}

/-! ## Where in a run something is observed -/

section Sees

variable {β : Type} {observe : Venue → Deed → List β}

/-- After some deeds of a run, a deed is observed to be this, and all that was observed earlier is
the past. -/
def Sees (observe : Venue → Deed → List β) (start : Venue) (before : List Deed) (deed : Deed)
    (past : List β) (seen : β) : Prop :=
  ∃ here there, observe (start.play before) deed = here ++ seen :: there ∧
    past = gather observe start before ++ here

theorem Sees.mem {before : List Deed} {deed : Deed} {past : List β} {seen : β}
    (sees : Sees observe start before deed past seen) :
    seen ∈ observe (start.play before) deed := by
  obtain ⟨here, there, observed, -⟩ := sees
  rw [observed]
  exact List.mem_append_right here List.mem_cons_self

theorem Sees.cons {first : Deed} {before : List Deed} {deed : Deed} {past : List β} {seen : β}
    (sees : Sees observe (start.perform first) before deed past seen) :
    Sees observe start (first :: before) deed (observe start first ++ past) seen := by
  obtain ⟨here, there, observed, rfl⟩ := sees
  exact ⟨here, there, observed, (List.append_assoc _ _ _).symm⟩

theorem Sees.mem_gather {before : List Deed} {deed : Deed} {past : List β} {seen : β}
    (sees : Sees observe start before deed past seen) (after : List Deed) :
    seen ∈ gather observe start (before ++ deed :: after) := by
  rw [gather_append, gather]
  exact List.mem_append_right _ (List.mem_append_left _ sees.mem)

/-- All that is observed in a run is observed at some deed of it. -/
theorem sees_of_gather {deeds : List Deed} {past rest : List β} {seen : β}
    (whole : gather observe start deeds = past ++ seen :: rest) :
    ∃ before deed after, deeds = before ++ deed :: after ∧
      Sees observe start before deed past seen := by
  induction deeds generalizing start past with
  | nil => cases past <;> cases whole
  | cons first later ih =>
      rcases List.append_eq_append_iff.mp whole with ⟨more, rfl, same⟩ | ⟨more, same, tail⟩
      · obtain ⟨before, deed, after, rfl, sees⟩ := ih same
        exact ⟨first :: before, deed, after, rfl, sees.cons⟩
      · cases more with
        | nil =>
            obtain ⟨before, deed, after, rfl, sees⟩ := @ih (start.perform first) [] tail.symm
            rw [List.append_nil] at same
            refine ⟨first :: before, deed, after, rfl, ?_⟩
            have here := sees.cons
            rw [same, List.append_nil] at here
            exact here
        | cons element there =>
            obtain ⟨rfl, -⟩ := List.cons.inj tail
            exact ⟨[], first, later, rfl, past, there, same, rfl⟩

end Sees

/-! ## Requests and events come in order -/

theorem perform_emptied (deed : Deed)
    (emptied : (venue.server.mail.box id).isOpen = false →
      (venue.server.mail.box id).queue = []) :
    ((venue.perform deed).server.mail.box id).isOpen = false →
      ((venue.perform deed).server.mail.box id).queue = [] := by
  intro shut
  rcases hub_or_elsewhere deed with ⟨visit, now, rfl⟩ | elsewhere
  · obtain ⟨opened, queue, silent⟩ := (perform_hub visit now venue).boxes id
    have before := opened.symm.trans shut
    rw [queue, emptied before, silent before]
    rfl
  · have away : Elsewhere _ venue.server _ := perform_elsewhere elsewhere
    rcases away.boxes id with shelved | ⟨-, -, empty, -⟩
    · rcases shelved.shut shut with empty | before
      · exact empty
      · have shorter := shelved.shrinks
        rw [emptied before] at shorter
        exact List.length_eq_zero_iff.mp (Nat.le_zero.mp shorter)
    · exact empty

theorem play_emptied (deeds : List Deed)
    (emptied : (venue.server.mail.box id).isOpen = false →
      (venue.server.mail.box id).queue = []) :
    ((venue.play deeds).server.mail.box id).isOpen = false →
      ((venue.play deeds).server.mail.box id).queue = [] := by
  induction deeds generalizing venue with
  | nil => exact emptied
  | cons deed rest ih => exact ih (perform_emptied deed emptied)

theorem start_absent {config : Config} (started : start? config = some start) (id : ClientId) :
    start.server.mail.box id = Mailbox.absent := by
  obtain ⟨-, rfl⟩ := start?_some started
  rfl

/-- A mailbox with something in it has lost nothing but what was received. -/
theorem delivered_of_waiting {config : Config} (started : start? config = some start)
    (deeds : List Deed) (waiting : ((start.play deeds).server.mail.box id).queue ≠ []) :
    gather (delivered id) start deeds =
      gather (received id) start deeds ++ ((start.play deeds).server.mail.box id).queue := by
  have absent := start_absent started id
  have stocked : Stocked id [] [] start.server := by
    refine ⟨fun opened => ?_, fun _ => ?_⟩
    · rw [absent] at opened
      contradiction
    · rw [absent]
      exact ⟨rfl, rfl, rfl, rfl⟩
  have opened : ((start.play deeds).server.mail.box id).isOpen = true := by
    by_contra shut
    refine waiting (play_emptied deeds (fun _ => ?_) (Bool.eq_false_iff.mpr shut))
    rw [absent]
    rfl
  have kept := (play_stocked deeds stocked).kept opened
  rwa [List.nil_append, List.nil_append] at kept

/-- A console takes the first event that waits. -/
theorem received_of_taken {event : Event} {deed : Deed} (took : event ∈ taken id venue deed) :
    ∃ rest, (venue.server.mail.box id).queue = event :: rest ∧
      received id venue deed = [event] := by
  have first {queue : List Event} (listed : event ∈ queue.head?.toList) :
      ∃ rest, queue = event :: rest := by
    cases queue with
    | nil => contradiction
    | cons other rest => exact ⟨rest, List.mem_singleton.mp listed ▸ rfl⟩
  unfold taken at took
  split at took
  · rename_i visit now turn
    cases turn with
    | hub | task | line => contradiction
    | event owner =>
        simp only [Server.taken] at took
        split at took
        · rename_i own
          obtain ⟨rest, queue⟩ := first took
          refine ⟨rest, queue, ?_⟩
          change (if _ then _ else _) = _
          rw [if_pos own, queue]
          rfl
        · contradiction
  · contradiction

/-! ## What a console hears and prints -/

def heard (id : ClientId) (venue : Venue) (deed : Deed) : List (Event × String) :=
  (venue.server.console? id).toList.flatMap fun console =>
    (taken id venue deed).map fun event => (event, console.session.room)

def linesOf (heard : List (Event × String)) : List String :=
  heard.map fun (event, room) => overprint event room

structure Narrates (id : ClientId) (lines : List String) (venue : Venue) : Prop where
  absent : venue.server.console? id = none → lines = []
  present : ∀ console, venue.server.console? id = some console → console.mode = .text →
    console.Announces lines

theorem heard_of_console {console : Console} (found : venue.server.console? id = some console)
    (deed : Deed) : heard id venue deed =
      (taken id venue deed).map fun event => (event, console.session.room) := by
  rw [heard, found]
  exact List.flatMap_singleton _ _

theorem heard_of_nobody (absent : venue.server.console? id = none) (deed : Deed) :
    heard id venue deed = [] := by
  rw [heard, absent]
  rfl

theorem linesOf_append (first second : List (Event × String)) :
    linesOf (first ++ second) = linesOf first ++ linesOf second :=
  List.map_append

theorem atConsole_cases (id : ClientId) (label : Option (ClientId × Happening)) :
    atConsole id label = [] ∨ ∃ happening, atConsole id label = [happening] := by
  rcases label with _ | ⟨other, happening⟩
  · exact Or.inl rfl
  · by_cases here : other = id
    · subst here
      exact Or.inr ⟨happening, atConsole_self _ _⟩
    · exact Or.inl (atConsole_other happening here)

-- A deed is at most one thing that happens at a console, so the room is still that of before.
theorem announces_of_reaches {console next : Console} {happenings : List Happening}
    {lines : List String} (settled : console.Settled) (announces : console.Announces lines)
    (few : happenings = [] ∨ ∃ happening, happenings = [happening])
    (reaches : console.Reaches happenings next) :
    next.Announces (lines ++ linesOf ((happenings.filterMap Happening.took?).map fun event =>
      (event, console.session.room))) := by
  rcases few with rfl | ⟨happening, rfl⟩
  · cases reaches
    rw [List.filterMap_nil, List.map_nil, linesOf, List.map_nil, List.append_nil]
    exact announces
  · obtain ⟨middle, goes, rfl⟩ : ∃ middle, console.Goes happening middle ∧ middle = next := by
      cases reaches with
      | next goes rest =>
          cases rest
          exact ⟨_, goes, rfl⟩
    cases took : happening.took? with
    | none =>
        rw [List.filterMap_cons_none took, List.filterMap_nil, List.map_nil, linesOf,
          List.map_nil, List.append_nil]
        exact announces.goes settled goes took
    | some event =>
        rw [List.filterMap_cons_some took, List.filterMap_nil]
        cases goes with
        | take _ ready =>
            cases took
            exact announces.take ready
        | feed | endInput | send | refuse | enter | print | finish | read => cases took

theorem perform_narrates {lines : List String} (orderly : venue.server.Orderly)
    (narrates : venue.Narrates id lines) (deed : Deed) :
    (venue.perform deed).Narrates id (lines ++ linesOf (heard id venue deed)) := by
  obtain ⟨label, passes, takes, -⟩ := perform_shows venue deed
  constructor
  · intro absent
    have before : venue.server.console? id = none := by
      cases found : venue.server.console? id with
      | none => rfl
      | some console =>
          obtain ⟨next, projects⟩ := passes.projects orderly found
          cases projects.found.symm.trans absent
    rw [narrates.absent before, heard_of_nobody before]
    rfl
  · intro next found text
    rcases passes.console_cases orderly found with
      ⟨console, before, reaches⟩ | ⟨absent, session, mode, sink, now, rfl⟩
    · have settled := orderly.settled console (console_listed before).2
      rw [heard_of_console before, takes id]
      exact announces_of_reaches settled (narrates.present console before (reaches.mode ▸ text))
        (atConsole_cases id label) reaches
    · rw [narrates.absent absent, heard_of_nobody absent]
      cases text
      exact Console.create_announces session sink now

theorem play_narrates {lines : List String} (deeds : List Deed) (orderly : venue.server.Orderly)
    (narrates : venue.Narrates id lines) :
    (venue.play deeds).Narrates id (lines ++ linesOf (gather (heard id) venue deeds)) := by
  induction deeds generalizing venue lines with
  | nil => simpa [gather, linesOf] using narrates
  | cons deed rest ih =>
      have later := ih (perform_orderly deed orderly) (perform_narrates orderly narrates deed)
      rw [List.append_assoc, ← linesOf_append] at later
      exact later

theorem start_narrates {config : Config} (started : start? config = some start) (id : ClientId) :
    start.Narrates id [] := by
  obtain ⟨-, rfl⟩ := start?_some started
  exact ⟨fun _ => rfl, nofun⟩

/-! ## From the line back to the question -/

/-- A list of users is delivered in answer to a question, with the users of the room at that time.
-/
theorem answer_of_delivered {names : List String} {deed : Deed} (orderly : venue.server.Orderly)
    (told : .users names ∈ delivered owner venue deed) :
    ∃ room, applied venue deed = [⟨owner, .listUsers room⟩] ∧
      venue.server.queued = ⟨owner, .listUsers room⟩ :: (venue.perform deed).server.queued ∧
      names.Perm (venue.server.registry.usersIn (venue.server.registry.roomOrDefault room)) := by
  rcases perform_effect venue deed with
    ⟨visit, now, request, rfl, done, carries⟩ | ⟨-, silent, -⟩
  · have arrives : .users names ∈ Exchange.arrivals owner venue.server.hub.state.exchange
        (.ask visit now request) := carries.delivered owner ▸ told
    obtain ⟨room, rfl, listed⟩ := Exchange.users_confined orderly.sound arrives
    exact ⟨room, done, carries.waiting, listed⟩
  · rw [silent owner] at told
    contradiction

/-- A list of users is the answer to a question. The question is asked for the room that the session
is in, it is answered in its turn, and the answer has the users who are then in that room. -/
structure Listing (start : Venue) (owner : ClientId) (names : List String) (room : String)
    (before : List Deed) (ask : Deed) (between : List Deed) (answer : Deed) : Prop where
  home : (start.play before).server.roomOf? owner = some room
  answered : ∃ past, Sees accepted start before ask past ⟨owner, .listUsers room⟩ ∧
    Sees applied start (before ++ ask :: between) answer past ⟨owner, .listUsers room⟩
  listed :
    let hub := (start.play (before ++ ask :: between)).server.registry
    names.Perm (hub.usersIn (hub.roomOrDefault room))

theorem listing_of_told {config : Config} (started : start? config = some start)
    {names : List String} {earlier : List Deed} {answer : Deed}
    (told : .users names ∈ delivered owner (start.play earlier) answer) :
    ∃ room before ask between, earlier = before ++ ask :: between ∧
      Listing start owner names room before ask between answer := by
  have orderly := play_orderly earlier (start_orderly started)
  obtain ⟨room, done, waiting, listed⟩ := answer_of_delivered orderly told
  have running : (start.play earlier).server.hub.phase = .running := by
    by_contra idle
    rw [(idle_of_not_running idle answer).1] at done
    contradiction
  have queue := accepted_of_going started earlier (by rw [running]; decide)
  rw [waiting] at queue
  obtain ⟨before, ask, between, rfl, asked⟩ := sees_of_gather queue
  refine ⟨room, before, ask, between, rfl, ?_, ⟨_, asked, [], [], done, ?_⟩, listed⟩
  · exact (play_frank before (start_frank started)).room_of_sends (sends_of_accepted asked.mem)
  · exact (List.append_nil _).symm

/-- The lists of users that a console in text mode prints are those that it takes, in their order,
and all of them when it has nothing left to do. Each is the answer to a question of its session; it
has the users of the room that was asked about when the hub got to it, and comes after the same
requests and the same events as the question and the answer did. Its line names the room in which
the session is when the console takes it, so it names the room asked about exactly if the session
has not gone to another one in between. -/
theorem listed_room_is_room_at_printing (config : Config) (start : Venue) (deeds : List Deed)
    (owner : ClientId) (started : start? config = some start) :
    (∀ console, (start.play deeds).server.console? owner = some console → console.mode = .text →
      console.announced <+: linesOf (gather (heard owner) start deeds) ∧
      (console.isReady = true →
        console.announced = linesOf (gather (heard owner) start deeds))) ∧
    ∀ deed names label, (.users names, label) ∈ heard owner (start.play deeds) deed →
      (start.play deeds).server.roomOf? owner = some label ∧
      ∃ room before ask between answer after, deeds = before ++ ask :: between ++ answer :: after ∧
        Listing start owner names room before ask between answer ∧
        (∃ past, Sees (delivered owner) start (before ++ ask :: between) answer past
            (.users names) ∧
          Sees (received owner) start deeds deed past (.users names)) ∧
        (overprint (.users names) label = overprint (.users names) room ↔ label = room) := by
  have orderly := play_orderly deeds (start_orderly started)
  refine ⟨fun console found text => ?_, fun deed names label listed => ?_⟩
  · have narrates := play_narrates deeds (start_orderly started) (start_narrates started owner)
    rw [List.nil_append] at narrates
    have announces := narrates.present console found text
    refine ⟨announces.part, fun ready => ?_⟩
    obtain ⟨running, nothing⟩ := Console.isReady_iff.mp ready
    have whole := announces.whole running
    rw [nothing] at whole
    exact (List.append_nil _).symm.trans whole
  · obtain ⟨console, found, taking⟩ := List.mem_flatMap.mp listed
    have here : (start.play deeds).server.console? owner = some console := by simpa using found
    obtain ⟨event, took, same⟩ := List.mem_map.mp taking
    obtain ⟨rfl, rfl⟩ := Prod.mk.inj same
    obtain ⟨rest, waiting, receives⟩ := received_of_taken took
    have order := delivered_of_waiting started deeds (by rw [waiting]; exact List.cons_ne_nil _ _)
    rw [waiting] at order
    obtain ⟨earlier, answer, after, rfl, told⟩ := sees_of_gather order
    obtain ⟨room, before, ask, between, rfl, listing⟩ := listing_of_told started told.mem
    refine ⟨orderly.roomOf?_of_console here, room, before, ask, between, answer, after,
      by rw [List.append_assoc], listing, ⟨_, told, [], [], receives, ?_⟩,
      overprint_users_inj names⟩
    exact (List.append_nil _).symm

-- The question is answered and its answer printed before the session goes anywhere.
theorem listed_room_is_room_at_printing_of_one_question :
    let now : Timestamp := ⟨0, 0, by decide, by decide, by decide⟩
    let config : Config := ⟨"general", 20, 64, 64⟩
    let ann : ClientId := ⟨2⟩
    let hub : Deed := .act (.turn .enrolled now .hub)
    let task : Deed := .act (.turn .enrolled now (.task ann))
    let event : Deed := .act (.turn .enrolled now (.event ann))
    let start : Venue :=
      ⟨⟨config, ⟨Service.create config, ⟨⟨64, [], true⟩, 1⟩, .scheduled, .armed⟩, [], [], 2⟩,
        fun _ => .shared []⟩
    let deeds : List Deed :=
      [.act (.openConsole "ann" "" .text .unlimited now), task, task, task, task, hub, hub,
        .act (.feed ann ("/users\n".toList.map fun c => UInt8.ofNat c.toNat)),
        .act (.turn .enrolled now (.line ann)), task, task, hub]
    start? config = some start ∧
      ((start.play (deeds ++ [event, task, task, task])).server.console? ann).map
          (·.announced) = some ["\rOnline in general: ann"] ∧
      ∃ before ask between answer after, deeds = before ++ ask :: between ++ answer :: after ∧
        Listing start ann ["ann"] "general" before ask between answer := by
  intro now config ann hub task event start deeds
  refine ⟨rfl, ?_, ?_⟩
  · obtain ⟨printed, -⟩ :=
      listed_room_is_room_at_printing config start (deeds ++ [event, task, task, task]) ann rfl
    have told : gather (heard ann) start (deeds ++ [event, task, task, task]) =
        [(.users ["ann"], "general")] := by decide +kernel
    have ready : ((start.play (deeds ++ [event, task, task, task])).server.console? ann).any
        (fun console => console.mode = .text && console.isReady) = true := by decide +kernel
    obtain ⟨console, found, good⟩ := (Option.any_eq_true _ _).mp ready
    obtain ⟨text, still⟩ := Bool.and_eq_true_iff.mp good
    have announced := (printed console found (of_decide_eq_true text)).2 still
    rw [told] at announced
    rw [found, Option.map_some, announced]
    decide +kernel
  · obtain ⟨-, answers⟩ := listed_room_is_room_at_printing config start deeds ann rfl
    have told : heard ann (start.play deeds) event = [(.users ["ann"], "general")] := by
      decide +kernel
    obtain ⟨-, room, before, ask, between, answer, after, whole, listing, -, -⟩ :=
      answers event ["ann"] "general" (by rw [told]; exact List.mem_singleton_self _)
    obtain ⟨past, asked, -⟩ := listing.answered
    have among := asked.mem_gather (between ++ answer :: after)
    rw [← List.cons_append, ← List.append_assoc, ← whole] at among
    have all : gather accepted start deeds =
        [⟨ann, .connect "ann" "general"⟩, ⟨ann, .listUsers "general"⟩] := by decide +kernel
    rw [all] at among
    obtain rfl : room = "general" := by simpa using among
    exact ⟨before, ask, between, answer, after, whole, listing⟩

-- The session asks about its room and goes to another one before it takes the answer.
theorem other_room_named_after_join :
    let now : Timestamp := ⟨0, 0, by decide, by decide, by decide⟩
    let config : Config := ⟨"general", 20, 64, 64⟩
    let ann : ClientId := ⟨2⟩
    let hub : Deed := .act (.turn .enrolled now .hub)
    let task : Deed := .act (.turn .enrolled now (.task ann))
    let line : Deed := .act (.turn .enrolled now (.line ann))
    let start : Venue :=
      ⟨⟨config, ⟨Service.create config, ⟨⟨64, [], true⟩, 1⟩, .scheduled, .armed⟩, [], [], 2⟩,
        fun _ => .shared []⟩
    let deeds : List Deed :=
      [.act (.openConsole "ann" "" .text .unlimited now), task, task, task, task, hub, hub,
        .act (.feed ann ("/users\n/join rust\n".toList.map fun c => UInt8.ofNat c.toNat)),
        line, task, task, line, task, task, task, task, task, task, hub, hub, hub,
        .act (.turn .enrolled now (.event ann)), task, task, task]
    start? config = some start ∧
      gather accepted start deeds =
        [⟨ann, .connect "ann" "general"⟩, ⟨ann, .listUsers "general"⟩, ⟨ann, .disconnect⟩,
          ⟨ann, .connect "ann" "rust"⟩] ∧
      ((start.play deeds).server.console? ann).map (·.written) =
        some [helpText, "\n", "[ann @ general] > ", "[ann @ general] > ", "Joined room: rust",
          "\n", "[ann @ rust] > ", overprint (.users ["ann"]) "rust", "\n",
          "[ann @ rust] > "] ∧
      overprint (.users ["ann"]) "rust" ≠ overprint (.users ["ann"]) "general" := by
  intro now config ann hub task line start deeds
  exact ⟨rfl, by decide +kernel, by decide +kernel, by decide +kernel⟩

end Venue
end ChatRooms
