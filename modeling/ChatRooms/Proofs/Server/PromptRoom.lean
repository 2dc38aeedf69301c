import ChatRooms.Proofs.Server.Handover
import ChatRooms.Proofs.Server.Listing
import ChatRooms.Proofs.Server.PendingRegistration
import ChatRooms.Proofs.Terminal.Grammar
import ChatRooms.Proofs.Terminal.Reading

/-! Where the session of a console will be. With what the hub has yet to carry out for it and what
the console has yet to send, the session comes to be registered under its name in the room that it
is in or is about to go to. When a console prints a prompt it has nothing left to send, so this is
the room that the prompt names. -/
namespace ChatRooms

def Session.member (session : Session) : Member :=
  ⟨session.id, session.id, session.user, session.room⟩

namespace Terminal

def Task.command? : Task → Option Command
  | .move (.send command) => some command
  | _ => none

def dueCommands (tasks : List Task) : List Command :=
  tasks.filterMap Task.command?

variable {hub : Hub} {session : Session} {room : String}

theorem dueCommands_append (first second : List Task) :
    dueCommands (first ++ second) = dueCommands first ++ dueCommands second :=
  List.filterMap_append

theorem dueCommands_of_unmoved {tasks : List Task}
    (quiet : ∀ task ∈ tasks, task.isMove = false) : dueCommands tasks = [] := by
  apply List.filterMap_eq_nil_iff.mpr
  intro task listed
  cases task with
  | move => cases quiet _ listed
  | write | endLine | prompt | finish => rfl

theorem dueCommands_of_text {task : Task} {tasks : List Task} {text : String}
    (prints : task.text? session = some text) :
    dueCommands (task :: tasks) = dueCommands tasks := by
  cases task with
  | move => contradiction
  | write | endLine | prompt | finish => rfl

theorem sessionAfter_of_unmoved {tasks : List Task} (session : Session)
    (quiet : ∀ task ∈ tasks, task.isMove = false) : sessionAfter session tasks = session := by
  induction tasks with
  | nil => rfl
  | cons task rest ih =>
      have later := ih fun other listed => quiet other (List.mem_cons_of_mem _ listed)
      cases task with
      | move => cases quiet _ List.mem_cons_self
      | write | endLine | prompt | finish => exact later

-- The room that a line asks for has a name.
theorem room_of_parse_join {line : String} (parsed : Entry.parse line = .ok (.join room)) :
    room ≠ "" := by
  have asks := asks_ofTrimmed (Text.trimChars line.toList)
  have same : Entry.ofTrimmed (Text.trimChars line.toList) = .ok (.join room) := parsed
  rw [same] at asks
  generalize Text.trimChars line.toList = text at asks
  cases asks with
  | join _ _ found => exact ofList_ne_empty found.1

theorem roomOrDefault_of_named (hub : Hub) (named : room ≠ "") : hub.roomOrDefault room = room := by
  simp [Hub.roomOrDefault, named]

theorem entryTasks_stands (hub : Hub) (session : Session) (now : Timestamp) {entry : Entry}
    (named : ∀ room, entry = .join room → room ≠ "") :
    (dueCommands (entryTasks session now entry)).foldl (stand hub session.id)
      (some session.member) = some (afterEntry session entry).member := by
  cases entry with
  | blank | say | users | quit | direct => rfl
  | help => rw [entryTasks, dueCommands_of_unmoved (writeLine_isMove helpText)]; rfl
  | join room =>
      have settles := roomOrDefault_of_named hub (named room rfl)
      have commands : dueCommands (entryTasks session now (.join room)) =
          [.disconnect, .connect session.user room] := rfl
      simp [commands, stand, settles, afterEntry, Session.member, Session.enter]

namespace Console

variable {console next : Console} {happening : Happening} {present : Option Member}

/-- How the session of a console will stand, when it stands like this before the console goes on. A
console that is about to finish has no prompt left to print. -/
structure Housed (console : Console) (hub : Hub) (present : Option Member) : Prop where
  named : console.outcome = none → (sessionAfter console.session console.tasks).room ≠ ""
  silent : .finish ∈ console.tasks → .prompt ∉ console.tasks
  stands : console.outcome = none → .finish ∉ console.tasks →
    (dueCommands console.tasks).foldl (stand hub console.session.id) present =
      some (sessionAfter console.session console.tasks).member

theorem create_housed {mode : Mode} {sink : Sink} {now : Timestamp}
    (named : session.room ≠ "")
    (fits : ∀ member, present = some member → member = session.member) :
    (create session mode sink now).Housed hub present where
  named _ := by
    cases mode <;> exact named
  silent := by
    cases mode <;> simp [create, finish_notMem_wishTasks, finish_notMem_writeLine]
  stands _ _ := by
    have settles := roomOrDefault_of_named hub named
    have commands : dueCommands (create session mode sink now).tasks =
        [.connect session.user session.room] := by
      cases mode <;> rfl
    have stays : sessionAfter session (create session mode sink now).tasks = session := by
      cases mode <;> rfl
    have here : (create session mode sink now).session = session := rfl
    rw [commands, here, stays]
    cases present with
    | none => simp [stand, settles, Session.member]
    | some member => simp [stand, fits member rfl]

-- Without anything to do, the session stands as it believes.
theorem Housed.ready (housed : console.Housed hub present) (ready : console.isReady = true) :
    console.session.room ≠ "" ∧ present = some console.session.member := by
  obtain ⟨running, nothing⟩ := isReady_iff.mp ready
  have named := housed.named running
  have stands := housed.stands running
  rw [nothing] at named stands
  exact ⟨named, stands (by simp)⟩

theorem housed_of_ended {outcome : Except ConsoleError Unit} :
    (console.conclude outcome).Housed hub present :=
  ⟨nofun, nofun, nofun⟩

-- Tasks that neither move the session nor finish leave it where it is.
theorem housed_of_unmoved (named : next.session.room ≠ "")
    (quiet : ∀ task ∈ next.tasks, task.isMove = false) (stays : .finish ∉ next.tasks) :
    next.Housed hub (some next.session.member) where
  named _ := by
    rw [sessionAfter_of_unmoved _ quiet]
    exact named
  silent leaves := absurd leaves stays
  stands _ _ := by
    rw [dueCommands_of_unmoved quiet, sessionAfter_of_unmoved _ quiet]
    rfl

theorem housed_of_entry {entry : Entry} (mode : Mode) (now : Timestamp)
    (named : next.session.room ≠ "") (goes_to : ∀ room, entry = .join room → room ≠ "")
    (tasks : next.tasks = entryTasks next.session now entry ++ promptTasks mode) :
    next.Housed hub (some next.session.member) := by
  have prompts := promptTasks_isMove mode
  have after : sessionAfter next.session next.tasks = afterEntry next.session entry := by
    rw [tasks, sessionAfter_entryTasks, sessionAfter_of_unmoved _ prompts]
  refine ⟨fun _ => ?_, fun leaves => ?_, fun _ _ => ?_⟩
  · rw [after]
    cases entry with
    | join room => exact goes_to room rfl
    | blank | say | help | users | quit | direct => exact named
  · rw [tasks] at leaves
    cases entry <;> simp [entryTasks, finish_notMem_wishTasks, finish_notMem_writeLine,
      finish_notMem_promptTasks] at leaves
  · rw [after, tasks, dueCommands_append, dueCommands_of_unmoved prompts, List.append_nil]
    exact entryTasks_stands hub next.session now goes_to

theorem housed_of_leave (now : Timestamp) (named : next.session.room ≠ "")
    (tasks : next.tasks = leaveTasks next.session now) :
    next.Housed hub (some next.session.member) := by
  refine ⟨fun _ => ?_, fun _ => ?_, fun _ stays => absurd ?_ stays⟩
  · rw [tasks]
    exact named
  · simp [tasks, leaveTasks, wishTasks]
  · simp [tasks, leaveTasks]

theorem housed_of_line (mode : Mode) (now : Timestamp) (line : String)
    (named : next.session.room ≠ "") (tasks : next.tasks = lineTasks next.session mode now line) :
    next.Housed hub (some next.session.member) := by
  unfold lineTasks at tasks
  cases parsed : Entry.parse line with
  | error reason =>
      rw [parsed] at tasks
      refine housed_of_unmoved named ?_ ?_
      · rw [tasks]
        exact fun task listed => (List.mem_append.mp listed).elim (writeLine_isMove _ task)
          (promptTasks_isMove _ task)
      · simp [tasks, finish_notMem_writeLine, finish_notMem_promptTasks]
  | ok entry =>
      rw [parsed] at tasks
      by_cases quits : entry = .quit
      · subst quits
        exact housed_of_leave now named tasks
      · refine housed_of_entry mode now named
          (fun room same => room_of_parse_join (parsed.trans (congrArg _ same))) ?_
        rw [tasks]
        cases entry with
        | quit => exact absurd rfl quits
        | blank | say | help | users | join | direct => rfl

theorem Housed.read {now : Timestamp} (housed : console.Housed hub present)
    (ready : console.isReady = true) (reads : console.readLine? now = some next) :
    next.Housed hub present := by
  obtain ⟨named, rfl⟩ := housed.ready ready
  cases readsTo_of_readLine? reads with
  | ended => exact housed_of_leave now named rfl
  | garbled => exact housed_of_ended
  | line octets rest line => exact housed_of_line console.mode now (stripLineEnd line) named rfl

/-- Whatever happens at a console, its session is going to stand where the console takes it. -/
theorem Housed.goes (settled : console.Settled) (free : console.sink = .unlimited)
    (housed : console.Housed hub present) (goes : console.Goes happening next) :
    next.Housed hub (happening.sent?.toList.foldl (stand hub console.session.id) present) := by
  have onward {task : Task} {tasks : List Task} (first : console.tasks = task :: tasks)
      (unfinished : task ≠ .finish) : console.outcome = none ∧
      (sessionAfter console.session (task :: tasks)).room ≠ "" ∧
      (.finish ∈ tasks → .prompt ∉ tasks) ∧ (.finish ∉ tasks →
        (dueCommands (task :: tasks)).foldl (stand hub console.session.id) present =
          some (sessionAfter console.session (task :: tasks)).member) := by
    have running := settled.running first
    obtain ⟨named, silent, stands⟩ := housed
    rw [first] at named silent stands
    refine ⟨running, named running, fun leaves shown => ?_, fun stays => stands running ?_⟩
    · exact silent (List.mem_cons_of_mem _ leaves) (List.mem_cons_of_mem _ shown)
    · simp [Ne.symm unfinished, stays]
  cases goes with
  | feed | endInput => exact ⟨housed.named, housed.silent, housed.stands⟩
  | refuse => exact housed_of_ended
  | finish tasks _ first finishes =>
      obtain rfl := finishes.of_unlimited free
      exact housed_of_ended
  | send command tasks first | enter room tasks first =>
      obtain ⟨-, named, silent, stands⟩ := onward first nofun
      exact ⟨fun _ => named, silent, fun _ => stands⟩
  | print task text tasks _ first prints emits =>
      obtain ⟨-, named, silent, stands⟩ := onward first (unfinished_of_text prints)
      rw [sessionAfter_of_text prints] at named stands
      rw [dueCommands_of_text prints] at stands
      obtain rfl := emits.of_unlimited free
      exact ⟨fun _ => named, silent, fun _ => stands⟩
  | read now _ ready reads => exact housed.read ready reads
  | take event ready =>
      obtain ⟨named, rfl⟩ := housed.ready ready
      exact housed_of_unmoved named (eventTasks_isMove _ _ _) (finish_notMem_eventTasks _ _ _)

theorem Housed.congr {after : Hub} (room : after.defaultRoom = hub.defaultRoom)
    (housed : console.Housed hub present) : console.Housed after present :=
  ⟨housed.named, housed.silent, by rw [stand_congr room]; exact housed.stands⟩

-- When a prompt is to be printed, nothing is left to send.
theorem Housed.prompt {tasks : List Task} (settled : console.Settled)
    (housed : console.Housed hub present) (sorted : MovesFirst console.tasks)
    (first : console.tasks = .prompt :: tasks) :
    console.session.room ≠ "" ∧ present = some console.session.member := by
  have running := settled.running first
  have stays : .finish ∉ console.tasks := fun leaves =>
    housed.silent leaves (first ▸ List.mem_cons_self)
  have quiet : ∀ task ∈ console.tasks, task.isMove = false := by
    rw [first] at sorted ⊢
    exact sorted.unmoved rfl
  have named := housed.named running
  have stands := housed.stands running stays
  rw [sessionAfter_of_unmoved _ quiet] at named stands
  rw [dueCommands_of_unmoved quiet] at stands
  exact ⟨named, stands⟩

end Console
end Terminal

namespace Venue

open Server Terminal

variable {config : Config} {venue : Venue} {id : ClientId} {console next : Console}

inductive Befalls (id : ClientId) (venue : Venue) (deed : Deed) (console : Console) :
    Console → Prop where
  | nothing (asks : asked id venue deed = []) (takes : taken id venue deed = [])
      (supplied : deed.supply? id = none) : Befalls id venue deed console console
  | happens (happening : Happening) (next : Console) (goes : console.Goes happening next)
      (asks : asked id venue deed = happening.sent?.toList)
      (takes : taken id venue deed = happening.took?.toList)
      (supplied : deed.supply? id = happening.supply?) : Befalls id venue deed console next

theorem perform_befalls (deed : Deed) (orderly : venue.server.Orderly)
    (found : venue.server.console? id = some console) :
    ∃ next, (venue.perform deed).server.console? id = some next ∧
      Befalls id venue deed console next := by
  obtain ⟨label, passes, takes, supplies⟩ := perform_shows venue deed
  obtain ⟨next, projects⟩ := passes.projects orderly found
  have supplied := supplies id console found
  have takes := takes id
  have asks : asked id venue deed = _ := projects.sent
  have reaches := projects.reaches
  refine ⟨next, projects.found, ?_⟩
  rcases atConsole_cases id label with none_here | ⟨happening, single⟩
  · rw [none_here] at reaches takes supplied asks
    cases reaches
    exact .nothing asks takes (Option.toList_eq_nil_iff.mp supplied)
  · rw [single] at reaches takes supplied asks
    cases reaches with
    | next goes rest =>
        cases rest
        refine .happens happening _ goes ?_ ?_ ?_
        · cases sent : happening.sent? <;> simpa [sent] using asks
        · cases took : happening.took? <;> simpa [took] using takes
        · cases supply : happening.supply? <;> simpa [supply] using supplied

theorem outcome_of_later (deeds : List Deed) (orderly : venue.server.Orderly)
    (found : venue.server.console? id = some console)
    (there : (venue.play deeds).server.console? id = some next) (running : next.outcome = none) :
    console.outcome = none := by
  obtain ⟨last, happenings, unfolds⟩ := play_unfolds deeds orderly found
  cases unfolds.found.symm.trans there
  by_contra ended
  have has_ended : console.hasEnded = true := Option.isSome_iff_ne_none.mpr ended
  have settled := orderly.settled console (console_listed found).2
  exact ended ((unfolds.reaches.of_ended settled has_ended).2.2.symm.trans running)

/-- A console whose session has its mailbox open and is going to stand where the console takes it,
as long as the console goes on. -/
structure Lodged (id : ClientId) (venue : Venue) (console : Console) : Prop where
  found : venue.server.console? id = some console
  free : console.sink = .unlimited
  opened : console.outcome = none → (venue.server.mail.box id).isOpen = true
  housed : console.outcome = none → console.Housed venue.server.registry
    (standing venue.server.registry id (commandsOf id venue.server.queued))

theorem perform_lodged (deed : Deed) (orderly : venue.server.Orderly)
    (armed : (venue.perform deed).server.hub.signal = .armed) (lodged : Lodged id venue console) :
    ∃ next, Lodged id (venue.perform deed) next := by
  obtain ⟨label, passes, -⟩ := perform_shows venue deed
  obtain ⟨next, found, befalls⟩ := perform_befalls deed orderly lodged.found
  obtain ⟨rfl, listed⟩ := console_listed lodged.found
  have settled := orderly.settled console listed
  have running (goes_on : next.outcome = none) : console.outcome = none :=
    outcome_of_later [deed] orderly lodged.found found goes_on
  refine ⟨next, found, ?_, fun goes_on => ?_, fun goes_on => ?_⟩
  · cases befalls with
    | nothing => exact lodged.free
    | happens _ _ goes => exact goes.unlimited lodged.free
  · rcases passes.isOpen orderly (lodged.opened (running goes_on)) with opened | unheard
    · exact opened
    · have ended := unheard.console next found
      simp [Console.hasEnded, goes_on] at ended
  · have housed := lodged.housed (running goes_on)
    have stands := passes.standing orderly armed (lodged.opened (running goes_on))
    refine Console.Housed.congr passes.defaultRoom ?_
    rw [stands]
    cases befalls with
    | nothing asks =>
        have silent : Server.asked console.session.id venue.server (venue.perform deed).server =
            [] := asks
        rw [silent]
        exact housed
    | happens happening _ goes asks =>
        have sent : Server.asked console.session.id venue.server (venue.perform deed).server =
            _ := asks
        rw [sent]
        exact housed.goes settled lodged.free goes

theorem play_lodged (deeds : List Deed) (orderly : venue.server.Orderly)
    (armed : (venue.play deeds).server.hub.signal = .armed) (lodged : Lodged id venue console) :
    ∃ next, Lodged id (venue.play deeds) next := by
  induction deeds generalizing venue console with
  | nil => exact ⟨console, lodged⟩
  | cons deed rest ih =>
      obtain ⟨next, after⟩ := perform_lodged deed orderly (play_armed rest armed) lodged
      exact ih (perform_orderly deed orderly) armed after

theorem fits_eq_resembles {session : Session} (named : session.room ≠ "") :
    session.fits config = session.member.resembles := by
  funext other
  have home : session.home config = session.room := by simp [Session.home, named]
  rw [Session.fits, Member.resembles, home]
  rfl

-- A console takes a session over that has its inbox, and that is in accord with the hub.
theorem AtLeisure.lodged {seat : Seat} (mode : Mode) (now : Timestamp)
    (leisure : venue.AtLeisure id seat) (orderly : venue.server.Orderly)
    (attentive : venue.server.Attentive) (consistent : Consistent config venue)
    (named : seat.session.room ≠ "") :
    Lodged id (venue.perform (.attend id mode .unlimited now))
      (Console.create seat.session mode .unlimited now) := by
  obtain ⟨self, -⟩ := seat_listed leisure.seated
  refine ⟨leisure.attended orderly mode .unlimited now, rfl, fun _ => ?_, fun _ => ?_⟩
  · rw [leisure.attend]
    exact attentive id seat leisure.seated leisure.inbox
  · rw [leisure.attend]
    refine Console.create_housed named fun member stands => ?_
    have fits := (accords_of_seat consistent leisure.seated).foretold.standing
    rw [fits_eq_resembles named, self] at fits
    have there : standing venue.server.registry id (commandsOf id venue.server.queued) =
        some member := stands
    rw [there] at fits
    exact Member.eq_of_resembles fits ((standing_id there).trans self.symm)

/-- A prompt names the room in which the session is registered when the hub has carried out what
the session had asked when the prompt was printed, and nothing that it asked later. If the console
has not ended by then the session is registered, and otherwise it is so there if at all. -/
theorem registered_at_prompt {tasks : List Task} (late : List Deed)
    (orderly : venue.server.Orderly) (consistent : Consistent config venue)
    (armed : (venue.play late).server.hub.signal = .armed) (lodged : Lodged id venue console)
    (sorted : MovesFirst console.tasks) (first : console.tasks = .prompt :: tasks)
    (ending : (venue.play late).server.console? id = some next)
    (left : commandsOf id (venue.play late).server.queued = gather (asked id) venue late) :
    (∀ member, (venue.play late).server.registry.member? id = some member →
      member = console.session.member) ∧
      (next.outcome = none →
        (venue.play late).server.registry.member? id = some console.session.member) := by
  obtain ⟨rfl, listed⟩ := console_listed lodged.found
  have settled := orderly.settled console listed
  obtain ⟨named, stands⟩ :=
    (lodged.housed (settled.running first)).prompt settled sorted first
  have told := (accords_of_console consistent lodged.found).foretold
  rw [fits_eq_resembles named, foretold_iff_own] at told
  have owes : Owes (next.outcome = none) console.session.member venue.server.registry
      (commandsOf console.session.id venue.server.queued) := ⟨told, fun _ => stands⟩
  have opened : ∀ early more, late = early ++ more → next.outcome = none →
      ((venue.play early).server.mail.box console.session.id).isOpen = true := by
    rintro early more rfl running
    rw [play_append] at armed ending
    obtain ⟨middle, there⟩ := play_lodged early orderly (play_armed more armed) lodged
    have going := outcome_of_later more (play_orderly early orderly) there.found ending running
    exact there.opened going
  exact registered_when_handled late orderly armed opened (List.append_nil _).symm owes left

end Venue
end ChatRooms
