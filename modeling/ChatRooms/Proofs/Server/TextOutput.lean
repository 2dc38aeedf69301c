import ChatRooms.Proofs.Server.PromptRoom

/-! What a console in text mode prints in a run. Lines of input and events come in any order; the
console turns to one of them at a time and has a block for each, so its output is decided by what it
turned to. The events are those of its mailbox, the lines those of its input, and every prompt names
the room in which the hub is going to have the session. -/
namespace ChatRooms

namespace Terminal

theorem Feeds.left {input : List UInt8} {first later : List Supply}
    (feeds : Feeds input (first ++ later)) : Feeds input first := by
  induction first generalizing input with
  | nil => trivial
  | cons supply rest ih =>
      cases supply with
      | octets chunk =>
          obtain ⟨left, rfl, more⟩ := feeds
          exact ⟨left, rfl, ih more⟩
      | ended =>
          obtain ⟨rfl, more⟩ := feeds
          exact ⟨rfl, ih more⟩

namespace Console

variable {console next : Console} {happening : Happening}

-- In text mode every line is answered at least with a prompt.
theorem busy_of_read {now : Timestamp} (text : console.mode = .text)
    (reads : console.readLine? now = some next) : next.isReady = false := by
  have answered (session : Session) (line : String) :
      lineTasks session .text now line ≠ [] := by
    unfold lineTasks
    split <;> simp [leaveTasks, promptTasks]
  cases readsTo_of_readLine? reads with
  | ended => simp [isReady, leaveTasks]
  | garbled => simp [isReady, hasEnded, conclude]
  | line => simp [isReady, text, answered]

theorem events_offered (console : Console) : console.offered.filterMap Item.event? = [] := by
  unfold offered
  split <;> rfl

theorem events_turnsTo (console : Console) (happening : Happening) :
    (console.turnsTo happening).filterMap Item.event? = happening.took?.toList := by
  cases happening with
  | took event => rfl
  | read => exact console.events_offered
  | supplied | sent | refused | worked => rfl

end Console
end Terminal

namespace Venue

open Server Terminal

variable {venue : Venue} {id : ClientId} {console next : Console} {start : Session}
  {input left : List UInt8} {items : List Item}

/-- What a console in text mode turns to in a deed. It is idle before and has something to do
afterwards: an event that it takes, or else what its input has to offer. -/
def turnsTo (id : ClientId) (venue : Venue) (deed : Deed) : List Item :=
  match venue.server.idleConsole? id with
  | none => []
  | some console =>
      if ((venue.perform deed).server.idleConsole? id).isSome then []
      else match taken id venue deed with
        | [] => console.offered
        | events => events.map .event

theorem idleConsole?_of_found {server : Server} (found : server.console? id = some console) :
    server.idleConsole? id = if console.isReady then some console else none := by
  rw [idleConsole?, found]
  rfl

theorem turnsTo_of_found (deed : Deed) (found : venue.server.console? id = some console)
    (there : (venue.perform deed).server.console? id = some next) :
    turnsTo id venue deed =
      if console.isReady = true ∧ next.isReady = false then
        match taken id venue deed with
        | [] => console.offered
        | events => events.map .event
      else [] := by
  rw [turnsTo, idleConsole?_of_found found, idleConsole?_of_found there]
  cases console.isReady <;> cases next.isReady <;> simp

theorem turnsTo_of_befalls {deed : Deed} (text : console.mode = .text)
    (found : venue.server.console? id = some console)
    (there : (venue.perform deed).server.console? id = some next) {happening : Happening}
    (goes : console.Goes happening next) (takes : taken id venue deed = happening.took?.toList) :
    turnsTo id venue deed = console.turnsTo happening := by
  have busy {task : Task} {tasks : List Task} (first : console.tasks = task :: tasks) :
      console.isReady = false := by simp [Console.isReady, first]
  rw [turnsTo_of_found deed found there, takes]
  cases goes with
  | feed | endInput =>
      refine if_neg fun both => ?_
      cases both.1.symm.trans both.2
  | send _ _ first | refuse _ _ first | enter _ _ first | print _ _ _ _ first
  | finish _ _ first => simp [busy first, Console.turnsTo]
  | read now _ ready reads =>
      simp [ready, Console.busy_of_read text reads, Console.turnsTo, Happening.took?]
  | take event ready =>
      have occupied : (console.take event).isReady = false := by
        simp [Console.isReady, Console.take, text, eventTasks]
      simp [ready, occupied, Console.turnsTo, Happening.took?]

theorem turnsTo_of_nothing {deed : Deed} (found : venue.server.console? id = some console)
    (there : (venue.perform deed).server.console? id = some console) :
    turnsTo id venue deed = [] := by
  rw [turnsTo_of_found deed found there]
  refine if_neg fun both => ?_
  cases both.1.symm.trans both.2

structure Recites (id : ClientId) (venue : Venue) (start : Session) (input left : List UInt8)
    (items : List Item) (console : Console) : Prop where
  found : venue.server.console? id = some console
  renders : console.Renders start items
  follows : console.Follows input left items

theorem perform_recites {later : List Supply} (deed : Deed) (orderly : venue.server.Orderly)
    (recites : Recites id venue start input left items console)
    (feeds : Feeds left ((deed.supply? id).toList ++ later)) :
    ∃ next rest, Feeds rest later ∧
      Recites id (venue.perform deed) start input rest (items ++ turnsTo id venue deed) next ∧
      (turnsTo id venue deed).filterMap Item.event? = taken id venue deed := by
  obtain ⟨found, renders, follows⟩ := recites
  have settled := orderly.settled console (console_listed found).2
  obtain ⟨next, there, befalls⟩ := perform_befalls deed orderly found
  cases befalls with
  | nothing asks takes supplied =>
      rw [supplied] at feeds
      rw [turnsTo_of_nothing found there, takes, List.append_nil]
      exact ⟨console, left, feeds, ⟨there, renders, follows⟩, rfl⟩
  | happens happening _ goes asks takes supplied =>
      rw [supplied] at feeds
      rw [turnsTo_of_befalls renders.text found there goes takes, takes]
      obtain ⟨rest, more, follows_on⟩ := follows.goes settled renders.free goes feeds
      exact ⟨next, rest, more, ⟨there, renders.goes settled goes, follows_on⟩,
        console.events_turnsTo happening⟩

theorem play_recites (deeds : List Deed) (orderly : venue.server.Orderly)
    (recites : Recites id venue start input left items console)
    (feeds : Feeds left (supplies id deeds)) :
    ∃ next rest, Recites id (venue.play deeds) start input rest
        (items ++ gather (turnsTo id) venue deeds) next ∧
      (gather (turnsTo id) venue deeds).filterMap Item.event? = gather (taken id) venue deeds := by
  induction deeds generalizing venue left items console with
  | nil =>
      rw [gather, gather, List.append_nil]
      exact ⟨console, left, recites, rfl⟩
  | cons deed rest ih =>
      have parted : Feeds left ((deed.supply? id).toList ++ supplies id rest) := by
        rw [supplies, List.filterMap_cons] at feeds
        cases supplied : deed.supply? id <;> simpa [supplied, supplies] using feeds
      obtain ⟨middle, more, fed, here, events⟩ := perform_recites deed orderly recites parted
      obtain ⟨next, last, there, later⟩ := ih (perform_orderly deed orderly) here fed
      refine ⟨next, last, ?_, ?_⟩
      · rw [gather, ← List.append_assoc]
        exact there
      · rw [gather, gather, List.filterMap_append, events, later]

-- A prompt that is to be printed is the next of the blocks, for the session after all items.
theorem Recites.prompt {tasks : List Task}
    (recites : Recites id venue start input left items console)
    (orderly : venue.server.Orderly) (first : console.tasks = .prompt :: tasks) :
    (∃ rest, console.output ++ (Terminal.prompt console.session ++ rest) =
      rendition start items) ∧ console.session = items.foldl afterItem start := by
  obtain ⟨found, renders, -⟩ := recites
  have running := (orderly.settled console (console_listed found).2).running first
  have whole := renders.whole running
  have session := renders.session running
  have quiet := (first ▸ renders.sorted).unmoved rfl
  rw [first] at whole session
  rw [sessionAfter_of_unmoved _ quiet] at session
  exact ⟨⟨_, whole⟩, session⟩

/-- A console in text mode prints the help and a prompt, and then a block for each thing that it
turns to, in this order: what it has printed is a beginning of that, and all of it when the
console is idle or has ended well. It fails only when the hub is told to stop, and then has
printed nothing for what it was at. It turns to the lines of its input, each once and in their
order, and to nothing after the end of the input or after a line that quits; and it turns to the
events that were in its mailbox and those that were delivered later, each once and in their order.

As long as the hub goes on, a prompt names the user and the room in which the hub has the session
registered when it has carried out what the session had asked by then and nothing that it asked
later. A session whose console has ended is no longer listening, and may then be registered no
more. -/
theorem text_is_rendition (config : Config) (start : Venue) (before after : List Deed)
    (owner : ClientId) (seat : Seat) (now : Timestamp) (input : List UInt8)
    (started : start? config = some start)
    (leisure : (start.play before).AtLeisure owner seat)
    (feeds : Feeds input (supplies owner after)) (text : legible (lines input) = true) :
    let attended := (start.play before).perform (.attend owner .text .unlimited now)
    let ending := (attended.play after).server
    let items := gather (turnsTo owner) attended after
    ∃ console, ending.console? owner = some console ∧
      (∃ rest, console.output ++ rest = rendition seat.session items) ∧
      (console.isReady = true ∨ console.outcome = some (.ok ()) →
        console.output = rendition seat.session items) ∧
      (∀ reason, console.outcome = some (.error reason) →
        ending.hub.signal ≠ .armed ∧ console.output = renditionBefore seat.session items) ∧
      items.filterMap Item.line? <+: lines input ∧
      (.close ∈ items → items.filterMap Item.line? = lines input) ∧
      (∀ item ∈ items.dropLast, item.isFinal = false) ∧
      (console.outcome = some (.ok ()) → items.getLast?.any Item.isFinal = true) ∧
      items.filterMap Item.event? = gather (taken owner) attended after ∧
      items.filterMap Item.event? <+:
        ((start.play before).server.mail.box owner).queue ++
          gather (delivered owner) attended after ∧
      (seat.session.room ≠ "" → ending.hub.signal = .armed →
        ∀ early late shown tasks, after = early ++ late →
          (attended.play early).server.console? owner = some shown →
          shown.tasks = .prompt :: tasks →
          (∃ rest, shown.output ++ (prompt shown.session ++ rest) =
            rendition seat.session (gather (turnsTo owner) attended early)) ∧
          shown.session =
            (gather (turnsTo owner) attended early).foldl afterItem seat.session ∧
          (commandsOf owner ending.queued = gather (asked owner) (attended.play early) late →
            (∀ member, ending.registry.member? owner = some member →
              member = shown.session.member) ∧
            (console.outcome = none →
              ending.registry.member? owner = some shown.session.member))) := by
  intro attended ending items
  have orderly_before := play_orderly before (start_orderly started)
  have consistent_before := play_consistent before (start_orderly started)
    (start_consistent started)
  have orderly : attended.server.Orderly := perform_orderly _ orderly_before
  have consistent : Consistent config attended :=
    perform_consistent _ orderly_before consistent_before
  have found := leisure.attended orderly_before .text .unlimited now
  have recites : Recites owner attended seat.session input input []
      (Console.create seat.session .text .unlimited now) :=
    ⟨found, Console.create_renders seat.session now, Console.create_follows seat.session now input⟩
  obtain ⟨console, left, here, events⟩ := play_recites after orderly recites feeds
  rw [List.nil_append] at here
  obtain ⟨there, renders, follows⟩ := here
  refine ⟨console, there, renders.written, ?_, fun reason failed => ⟨?_, ?_⟩,
    ⟨_, follows.lines.symm⟩, fun closed => ?_, follows.before,
    fun ended => follows.last (Or.inl ended), events, ?_, ?_⟩
  · rintro (ready | ended)
    · exact (renders.ready ready).1
    · exact renders.done ended
  · intro armed
    have on : (Console.create seat.session .text .unlimited now).OnScript input :=
      Console.create_onScript text
    obtain ⟨other, same, -, at_end⟩ :=
      script_followed now after orderly found on rfl feeds armed
    cases there.symm.trans same
    have fine := (at_end (by simp [Console.hasEnded, failed])).1
    cases failed.symm.trans fine
  · exact renders.failed reason failed
  · obtain ⟨read, dry⟩ := follows.spent closed
    have all := follows.lines
    rw [read, follows.dry dry, List.nil_append, Terminal.lines, List.append_nil] at all
    exact all.symm
  · obtain ⟨other, happenings, unfolds⟩ := play_unfolds after orderly found
    obtain ⟨rest, balance, -⟩ := unfolds.drawn
    have mail : attended.server.mail = (start.play before).server.mail := by
      rw [leisure.attend]
      rfl
    rw [events, ← mail, balance]
    exact List.prefix_append _ _
  · rintro named armed early late shown tasks rfl shown_there first
    obtain ⟨same, rest, here, -⟩ := play_recites early orderly recites (by
      rw [supplies, List.filterMap_append] at feeds
      exact feeds.left)
    cases here.found.symm.trans shown_there
    rw [List.nil_append] at here
    have parted : attended.play (early ++ late) = (attended.play early).play late :=
      play_append attended early late
    have ends : ending = ((attended.play early).play late).server := congrArg Venue.server parted
    have lodged := leisure.lodged .text now orderly_before
      (play_attentive before (start_orderly started) (start_attentive started)) consistent_before
      named
    rw [parted] at there
    rw [ends] at armed ⊢
    have orderly_early := play_orderly early orderly
    obtain ⟨printed, session⟩ := here.prompt orderly_early first
    obtain ⟨there_too, lodged_early⟩ := play_lodged early orderly (play_armed late armed) lodged
    cases lodged_early.found.symm.trans shown_there
    have registered := registered_at_prompt late orderly_early
      (play_consistent early orderly consistent) armed lodged_early here.renders.sorted first there
    exact ⟨printed, session, registered⟩

-- Ann is told something in one room and then goes to another; when the hub has carried out the two
-- requests for that, she is where her prompt says.
theorem text_is_rendition_of_switch :
    let now : Timestamp := ⟨0, 0, by decide, by decide, by decide⟩
    let config : Config := ⟨"general", 20, 8, 64⟩
    let bob : ClientId := ⟨2⟩
    let ann : ClientId := ⟨3⟩
    let hub : Deed := .act (.turn .enrolled now .hub)
    let task : Deed := .act (.turn .enrolled now (.task ann))
    let start : Venue :=
      ⟨⟨config, ⟨Service.create config, ⟨⟨8, [], true⟩, 1⟩, .scheduled, .armed⟩, [], [], 2⟩,
        fun _ => .shared []⟩
    let before : List Deed :=
      [.act (.openSession "bob" ""), .act (.openSession "ann" ""), .act (.begin bob now .connect),
        .act (.proceed bob 0), hub, hub]
    let attended := (start.play before).perform (.attend ann .text .unlimited now)
    let join : List UInt8 := "/join rust\n".toList.map fun c => UInt8.ofNat c.toNat
    let early : List Deed :=
      [task, hub, task, task, task, .act (.begin bob now (.post "yo")), .act (.proceed bob 0), hub,
        .act (.feed ann join), .act (.turn .enrolled now (.event ann)), task, task, task,
        .act (.turn .enrolled now (.line ann)), task, task, task, task, task]
    let late : List Deed := [hub, hub, task]
    let ending := (attended.play (early ++ late)).server
    start? config = some start ∧
      ending.registry.member? ann = some ⟨ann, ann, "ann", "rust"⟩ ∧
      ∃ console, ending.console? ann = some console ∧
        console.output = helpText ++ "\n" ++ "[ann @ general] > " ++
          ("\r[00:00:00] [general] bob: yo\n[ann @ general] > " ++
            "Joined room: rust\n[ann @ rust] > ") := by
  intro now config bob ann hub task start before attended join early late ending
  let seat : Seat := ⟨⟨ann, "ann", "general"⟩, true, true⟩
  have leisure : (start.play before).AtLeisure ann seat :=
    ⟨by decide +kernel, rfl, rfl, by decide +kernel⟩
  have feeds : Feeds join (supplies ann (early ++ late)) := ⟨[], by decide +kernel, trivial⟩
  obtain ⟨console, found, -, printed, -, -, -, -, -, -, -, prompts⟩ :=
    text_is_rendition config start before (early ++ late) ann seat now join rfl leisure feeds
      (by decide +kernel)
  have items : gather (turnsTo ann) attended (early ++ late) =
      [.event (.broadcast ⟨"bob", "yo", "general", now⟩), .line join] := by
    decide +kernel
  have idle : (ending.console? ann).map (·.isReady) = some true := by decide +kernel
  rw [found] at idle
  have output := printed (Or.inl (Option.some.inj idle))
  rw [items] at output
  obtain ⟨shown, there⟩ : ∃ shown, (attended.play early).server.console? ann = some shown :=
    Option.isSome_iff_exists.mp (by decide +kernel)
  have state : ((attended.play early).server.console? ann).map
      (fun shown => (shown.tasks, shown.session)) = some ([.prompt], ⟨ann, "ann", "rust"⟩) := by
    decide +kernel
  rw [there] at state
  obtain ⟨first, session⟩ := Prod.mk.inj (Option.some.inj state)
  obtain ⟨-, -, named⟩ :=
    prompts (by decide) (by decide +kernel) early late shown [] rfl there first
  have going : (ending.console? ann).map (·.outcome.isNone) = some true := by decide +kernel
  rw [found] at going
  have registered := (named (by decide +kernel)).2
    (Option.isNone_iff_eq_none.mp (Option.some.inj going))
  rw [session] at registered
  have greeting : prompt seat.session = "[ann @ general] > " := by decide +kernel
  have answers : blocks seat.session [.event (.broadcast ⟨"bob", "yo", "general", now⟩),
      .line join] = "\r[00:00:00] [general] bob: yo\n[ann @ general] > " ++
        "Joined room: rust\n[ann @ rust] > " := by
    decide +kernel
  rw [rendition, greeting, answers] at output
  exact ⟨rfl, registered, console, found, output⟩

end Venue
end ChatRooms
