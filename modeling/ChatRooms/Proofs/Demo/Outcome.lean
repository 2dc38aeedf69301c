import ChatRooms.Proofs.Demo.Course

/-! How the conversation comes out. Every event that is waited for comes, whatever the settings and
the schedule are, if only a room keeps two messages; if it keeps one, the user who joins late waits
for a second in vain. -/
namespace ChatRooms.Demo

open Server

def OnCourse (config : Config) (cast : Cast) (at_ : Timestamp) (stage : Stage) : Prop :=
  (stage.outcome = none ∧ ∃ done rest past waiting,
    Playing config cast at_ stage.server stage.todo done rest past waiting) ∨
  stage.outcome = some (verdict config)

section OnCourse

variable {config : Config} {cast : Cast} {at_ now : Timestamp} {stage next : Stage}

theorem go_of_playing (apart : Function.Injective cast.id) (checked : config.check = .ok ())
    (running : stage.outcome = none) {done rest : List Beat} {past waiting : List Plea}
    (playing : Playing config cast at_ stage.server stage.todo done rest past waiting)
    (goes : stage.go? cast now = some next) : OnCourse config cast at_ next := by
  unfold Stage.go? at goes
  split at goes
  · rename_i shown
    cases goes
    rw [shown] at playing
    exact Or.inr (congrArg some (playing.finished checked).symm)
  · rename_i shown
    cases goes
    rw [shown] at playing
    exact Or.inl ⟨running, _, _, _, _, playing.heading⟩
  · rename_i role wish todo shown
    rw [playing.afoot.seats role] at goes
    cases goes
    rw [shown] at playing
    exact Or.inl ⟨running, _, _, _, _, playing.wish now⟩
  · rename_i role todo shown
    rw [playing.afoot.seats role] at goes
    rw [shown] at playing
    cases queue : (stage.server.mail.box (cast.id role)).queue with
    | nil =>
        obtain ⟨_, looked, -⟩ := playing.afoot.looks queue
        rw [looked] at goes
        contradiction
    | cons event events =>
        obtain ⟨_, taken, done, rest, others⟩ := playing.take apart checked queue
        rw [taken] at goes
        cases goes
        exact Or.inl ⟨running, done, rest, _, _, others⟩
  · rename_i role room todo shown
    cases goes
    rw [shown] at playing
    obtain ⟨done, rest, others⟩ := playing.enter apart checked
    exact Or.inl ⟨running, done, rest, _, _, others⟩
  · rename_i role command todo shown
    rw [shown] at playing
    rcases playing.afoot.offer (cast.id role) command with ⟨after, taken⟩ | ⟨full, -⟩
    · rw [taken] at goes
      cases goes
      exact Or.inl ⟨running, playing.send checked taken⟩
    · rw [full] at goes
      contradiction

/-- Somebody waits in vain only at the ending. -/
theorem verdict_of_waits (checked : config.check = .ok ()) {done rest : List Beat}
    {past : List Plea}
    (playing : Playing config cast at_ stage.server stage.todo done rest past [])
    (waits : stage.waits cast = true) : verdict config = .error .timedOut := by
  unfold Stage.waits at waits
  split at waits
  · rename_i role todo shown
    rw [shown] at playing
    cases queue : (stage.server.mail.box (cast.id role)).queue with
    | nil => exact playing.stranded checked queue
    | cons event events =>
        rw [(poll_of_cons queue).1] at waits
        contradiction
  · contradiction

/-- Whatever happens next, the conversation stays on its course. -/
theorem OnCourse.step (apart : Function.Injective cast.id) (checked : config.check = .ok ())
    {cue : Cue} (course : OnCourse config cast at_ stage)
    (follows : stage.next? cast cue = some next) : OnCourse config cast at_ next := by
  unfold Stage.next? at follows
  split at follows
  · contradiction
  · rename_i unended
    have running : stage.outcome = none := by simpa using unended
    rcases course with ⟨-, done, rest, past, waiting, playing⟩ | ended
    · cases cue with
      | hub visit now =>
          obtain ⟨server, turned, rfl⟩ := Option.map_eq_some_iff.mp follows
          obtain ⟨past, waiting, others⟩ := playing.turned apart checked turned
          exact Or.inl ⟨running, _, _, past, waiting, others⟩
      | go now => exact go_of_playing apart checked running playing follows
      | giveUp visit now =>
          simp only at follows
          split at follows
          · rename_i alone
            cases follows
            obtain ⟨waits, idle⟩ := Bool.and_eq_true_iff.mp alone
            obtain rfl := playing.afoot.waiting_nil (Option.isNone_iff_eq_none.mp idle)
            exact Or.inr (congrArg some (verdict_of_waits checked playing waits).symm)
          · contradiction
    · rw [running] at ended
      contradiction

-- What keeps the conversation from going on is a full queue or an empty mailbox, and the queue of a
-- hub that has nothing left to do is not full.
theorem goes_or_waits {visit : Visit} {done rest : List Beat} {past waiting : List Plea}
    (playing : Playing config cast at_ stage.server stage.todo done rest past waiting)
    (stuck : stage.server.hubTurn? visit now = none) :
    (stage.go? cast now).isSome = true ∨ stage.waits cast = true := by
  have afoot := playing.afoot
  cases shown : stage.todo with
  | nil => simp [Stage.go?, shown]
  | cons part todo =>
      cases part with
      | move role move =>
          cases move with
          | enter room => simp [Stage.go?, shown]
          | send command =>
              rcases afoot.offer (cast.id role) command with ⟨after, taken⟩ | ⟨-, queued⟩
              · simp [Stage.go?, shown, taken]
              · exact absurd (queued_of_stuck afoot stuck) queued
      | scene scene =>
          cases scene with
          | heading text => simp [Stage.go?, shown]
          | wish role wish => simp [Stage.go?, shown, afoot.seats role]
          | await role =>
              cases queue : (stage.server.mail.box (cast.id role)).queue with
              | nil => exact Or.inr (by simp [Stage.waits, shown, afoot.poll_of_nil queue])
              | cons event events =>
                  obtain ⟨taken, looked⟩ : ∃ taken, stage.server.poll (cast.id role) =
                    (.message event, taken) := ⟨_, Prod.ext (poll_of_cons queue).1 rfl⟩
                  simp [Stage.go?, shown, afoot.seats role, looked]

/-- And something can happen next, until it is over. -/
theorem OnCourse.goes_on (course : OnCourse config cast at_ stage)
    (running : stage.outcome = none) : ∃ cue, (stage.next? cast cue).isSome = true := by
  rcases course with ⟨-, done, rest, past, waiting, playing⟩ | ended
  · cases turned : stage.server.hubTurn? .enrolled at_ with
    | some server => exact ⟨.hub .enrolled at_, by simp [Stage.next?, running, turned]⟩
    | none =>
        rcases goes_or_waits playing turned with goes | waits
        · exact ⟨.go at_, by simpa [Stage.next?, running] using goes⟩
        · exact ⟨.giveUp .enrolled at_, by simp [Stage.next?, running, waits, turned]⟩
  · rw [running] at ended
    contradiction

theorem OnCourse.follow (apart : Function.Injective cast.id) (checked : config.check = .ok ())
    {cues : List Cue} (course : OnCourse config cast at_ stage)
    (follows : stage.follow? cast cues = some next) : OnCourse config cast at_ next := by
  induction cues generalizing stage with
  | nil =>
      cases follows
      exact course
  | cons cue cues ih =>
      obtain ⟨middle, first, others⟩ := Option.bind_eq_some_iff.mp follows
      exact ih (course.step apart checked first) others

end OnCourse

section Opening

variable {config : Config}

def seated (server : Server) (user : String) : Server :=
  { server.setMail (server.mail.setChannel ⟨server.nextId⟩
      ⟨⟨server.config.sessionCapacity, [], true⟩, 1⟩) with
    nextId := server.nextId + 1
    seats := server.seats ++ [⟨⟨⟨server.nextId⟩, user, server.config.defaultRoom⟩, true, true⟩] }

theorem openSession?_seated (server : Server)
    (admitted : Mailbox.admits server.config.sessionCapacity = true)
    (user : String) : server.openSession? user "" =
      some (⟨⟨server.nextId⟩, user, server.config.defaultRoom⟩, seated server user) := by
  simp [openSession?, openSessionIn?, newSession?, Mailroom.open?, Channel.create?,
    Mailbox.create?, admitted, roomOrDefault, seated, setMail]

theorem seated_passes (server : Server)
    (admitted : Mailbox.admits server.config.sessionCapacity = true) (user : String) :
    server.Passes none (seated server user) := by
  have created : server.newSession? user server.config.defaultRoom =
      some (⟨⟨server.nextId⟩, user, server.config.defaultRoom⟩,
        { server.setMail (server.mail.setChannel ⟨server.nextId⟩
            ⟨⟨server.config.sessionCapacity, [], true⟩, 1⟩) with
          nextId := server.nextId + 1 }) := by
    simp [newSession?, Mailroom.open?, Channel.create?, Mailbox.create?, admitted]
  exact .openSeat user server.config.defaultRoom _ _ created

def company : Cast := ⟨⟨2⟩, ⟨3⟩, ⟨4⟩⟩

def gathered (config : Config) : Server :=
  seated (seated (seated (unoccupied config) Role.alice.name) Role.bob.name) Role.carol.name

theorem company_apart : Function.Injective company.id := by
  intro first second
  cases first <;> cases second <;> simp [company, Cast.id]

theorem enter?_gathered (admitted : Mailbox.admits config.sessionCapacity = true) :
    enter? (unoccupied config) = some (company, gathered config) := by
  have first := openSession?_seated (unoccupied config) admitted Role.alice.name
  have second := openSession?_seated (seated (unoccupied config) Role.alice.name)
    admitted Role.bob.name
  have third := openSession?_seated
    (seated (seated (unoccupied config) Role.alice.name) Role.bob.name)
    admitted Role.carol.name
  simp only [enter?, first, second, third, Option.bind_eq_bind, Option.bind_some]
  rfl

theorem start?_unoccupied (fits : Mailbox.admits config.hubCapacity = true) :
    Server.start? config = some (unoccupied config) := by
  obtain ⟨server, started⟩ := Option.isSome_iff_exists.mp ((start?_isSome config).trans fits)
  rw [started, (start?_some started).2]

/-- The conversation before its first part. -/
theorem gathered_playing (at_ : Timestamp) (fits : Mailbox.admits config.hubCapacity = true)
    (admitted : Mailbox.admits config.sessionCapacity = true) :
    Playing config company at_ (gathered config) (script.map .scene) [] beats [] [] := by
  have started := start?_unoccupied fits
  have first := seated_passes (unoccupied config) admitted Role.alice.name
  have second := seated_passes (seated (unoccupied config) Role.alice.name)
    admitted Role.bob.name
  have third := seated_passes
    (seated (seated (unoccupied config) Role.alice.name) Role.bob.name)
    admitted Role.carol.name
  refine ⟨⟨third.orderly (second.orderly (first.orderly (start_orderly started))),
    third.provisioned (second.provisioned (first.provisioned (start_provisioned started))), rfl,
    rfl, rfl, ?_, .nil, ⟨rfl, ?_, ?_, ?_⟩, ?_, ?_⟩, rfl, Nat.zero_le _, plan_script _ _ _⟩
  · intro role
    cases role <;> rfl
  · intro role
    rfl
  · intro id registered
    cases registered
  · intro place
    exact (Nat.min_zero _).symm
  · intro role
    cases role <;> rfl
  · intro role
    cases role <;> rfl

end Opening

section Program

variable {config : Config} {cast : Cast} {at_ now : Timestamp} {visit : Visit} {server : Server}
  {todo : List Part} {done rest : List Beat} {past waiting : List Plea} {role : Role}

-- Without consoles it is the hub alone that goes on, until it has nothing left to do.
theorem settle_stuck (visit : Visit) (now : Timestamp) (alone : server.consoles = []) :
    (server.settle visit now).hubTurn? visit now = none := by
  have stops : (server.runHub visit now).hubTurn? visit now = none := by
    simp [hubTurn?, runHub, Loop.settle_waits]
  have idle (server : Server) (alone : server.consoles = []) :
      server.isIdle visit now = (server.hubTurn? visit now).isNone := by
    simp [isIdle, alone]
  have round : server.round visit now = server.runHub visit now := by
    simp [Server.round, alone]
  have still : (server.runHub visit now).isIdle visit now = true := by
    have still_alone : (server.runHub visit now).consoles = [] := alone
    rw [idle _ still_alone, stops]
    rfl
  rw [settle, rounds]
  split
  · rename_i quiet
    rw [idle _ alone] at quiet
    exact Option.isNone_iff_eq_none.mp quiet
  · rw [round, rounds, if_pos still]
    exact stops

theorem Playing.turns {after : Server} (apart : Function.Injective cast.id)
    (checked : config.check = .ok ()) (turns : Turned visit now server after)
    (playing : Playing config cast at_ server todo done rest past waiting) :
    ∃ past waiting, Playing config cast at_ after todo done rest past waiting := by
  induction turns generalizing past waiting with
  | none => exact ⟨past, waiting, playing⟩
  | next turn taken _ ih =>
      cases turn with
      | hub =>
          obtain ⟨past, waiting, others⟩ := playing.turned apart checked taken
          exact ih others
      | task | line | event =>
          simp [turn?, idleConsole?, console?, playing.afoot.alone] at taken

theorem Playing.settle (visit : Visit) (now : Timestamp) (apart : Function.Injective cast.id)
    (checked : config.check = .ok ())
    (playing : Playing config cast at_ server todo done rest past waiting) :
    ∃ past, Playing config cast at_ (server.settle visit now) todo done rest past [] := by
  have turns : Turned visit now server (server.settle visit now) := settle_turned server
  obtain ⟨past, waiting, others⟩ := playing.turns apart checked turns
  obtain rfl := others.afoot.waiting_nil (settle_stuck visit now playing.afoot.alone)
  exact ⟨past, others⟩

theorem Playing.sends (visit : Visit) (now : Timestamp) (apart : Function.Injective cast.id)
    (checked : config.check = .ok ()) {command : Command}
    (playing : Playing config cast at_ server (.move role (.send command) :: todo) done rest past
      waiting) : ∃ after, server.send visit now (cast.id role) command = (after, .ok ()) ∧
        ∃ done rest past waiting, Playing config cast at_ after todo done rest past waiting := by
  rcases playing.afoot.offer (cast.id role) command with ⟨after, taken⟩ | ⟨full, -⟩
  · exact ⟨after, by simp only [Server.send, taken], playing.send checked taken⟩
  · obtain ⟨past, settled⟩ := playing.settle visit now apart checked
    have stuck := settle_stuck visit now playing.afoot.alone
    rcases settled.afoot.offer (cast.id role) command with ⟨after, taken⟩ | ⟨-, queued⟩
    · exact ⟨after, by simp only [Server.send, full, taken], settled.send checked taken⟩
    · exact absurd (queued_of_stuck settled.afoot stuck) queued

theorem Playing.carryOut (visit : Visit) (now : Timestamp) (apart : Function.Injective cast.id)
    (checked : config.check = .ok ()) (moves : List Move)
    (playing : Playing config cast at_ server (moves.map (.move role) ++ todo) done rest past
      waiting) : ∃ after, Server.carryOut visit now (cast.id role) moves server = (after, .ok ()) ∧
        ∃ done rest past waiting, Playing config cast at_ after todo done rest past waiting := by
  induction moves generalizing server done rest past waiting with
  | nil => exact ⟨server, rfl, done, rest, past, waiting, playing⟩
  | cons move moves ih =>
      cases move with
      | enter room =>
          obtain ⟨done, rest, others⟩ := playing.enter apart checked
          exact ih others
      | send command =>
          obtain ⟨sent, sends, done, rest, past, waiting, others⟩ :=
            playing.sends visit now apart checked
          rw [Server.carryOut, sends]
          exact ih others

theorem Playing.receives (visit : Visit) (now : Timestamp) (apart : Function.Injective cast.id)
    (checked : config.check = .ok ())
    (playing : Playing config cast at_ server (.scene (.await role) :: todo) done rest past
      waiting) :
    (∃ event after, server.receive visit now (cast.id role) true = (after, .ok event) ∧
      ∃ done rest past waiting, Playing config cast at_ after todo done rest past waiting) ∨
    (∃ after, server.receive visit now (cast.id role) true = (after, .error .timedOut) ∧
      verdict config = .error .timedOut) := by
  cases queue : (server.mail.box (cast.id role)).queue with
  | cons event events =>
      obtain ⟨_, taken, done, rest, others⟩ := playing.take apart checked queue
      exact Or.inl ⟨event, _, by simp only [receive, taken], done, rest, past, waiting, others⟩
  | nil =>
      obtain ⟨waited, looked, afoot⟩ := playing.afoot.looks queue
      have still : Playing config cast at_ waited (.scene (.await role) :: todo) done rest past
          waiting := ⟨afoot, playing.script, playing.soon, playing.plan⟩
      obtain ⟨past, settled⟩ := still.settle visit now apart checked
      cases later : ((waited.settle visit now).mail.box (cast.id role)).queue with
      | cons event events =>
          obtain ⟨_, taken, done, rest, others⟩ := settled.take apart checked later
          exact Or.inl ⟨event, _, by simp [receive, looked, taken], done, rest, past, [], others⟩
      | nil =>
          obtain ⟨last, dry, -⟩ := settled.afoot.looks later
          exact Or.inr ⟨last, by simp [receive, looked, dry], settled.stranded checked later⟩

/-- The program plays the conversation to the same end. -/
theorem playAll_outcome (visit : Visit) (now : Timestamp) (apart : Function.Injective cast.id)
    (checked : config.check = .ok ()) (scenes : List Scene)
    (playing : Playing config cast at_ server (scenes.map .scene) done rest past waiting) :
    (playAll visit now cast scenes server).outcome = verdict config := by
  induction scenes generalizing server done rest past waiting with
  | nil => exact (playing.finished checked).symm
  | cons scene scenes ih =>
      cases scene with
      | heading text =>
          exact ih playing.heading
      | wish role wish =>
          have found := playing.afoot.seats role
          obtain ⟨after, carried, _, _, _, _, others⟩ :=
            (playing.wish now).carryOut visit now apart checked
          have called : server.call visit now (sessionOf cast config.defaultRoom done role) wish =
              (after, .ok ()) := carried
          simp only [playAll, Demo.play, found, called]
          exact ih others
      | await role =>
          have found := playing.afoot.seats role
          rcases playing.receives visit now apart checked with
            ⟨event, after, received, done, rest, past, waiting, others⟩ | ⟨after, received, ended⟩
          · simp only [playAll, Demo.play, found, received]
            exact ih others
          · simp only [playAll, Demo.play, found, received]
            exact ended.symm

/-- Under every schedule, and in the order in which the program does things, the conversation comes
to an end. Every event that is waited for comes if a room keeps two messages. If it keeps one, the
user who joins late waits for a second in vain. -/
theorem conversation_ends (config : Config) (checked : config.check = .ok ())
    (hub_fits : config.hubCapacity ≤ Mailbox.maxCapacity)
    (session_fits : config.sessionCapacity ≤ Mailbox.maxCapacity) :
    ∃ cast start, open? config = some (cast, start) ∧
      (∀ cues stage, start.follow? cast cues = some stage → cues.length ≤ 70 ∧
        ((stage.outcome = none ∧ ∃ cue, (stage.next? cast cue).isSome = true) ∨
          stage.outcome =
            some (if 2 ≤ config.historySize then .ok () else .error .timedOut))) ∧
      ∀ visit now, ∃ report, run? visit now config = some report ∧
        report.outcome = if 2 ≤ config.historySize then .ok () else .error .timedOut := by
  obtain ⟨-, -, hub_pos, -⟩ := Config.check_eq_ok_iff.mp checked
  have fits := Mailbox.admits_iff.mpr ⟨hub_pos, hub_fits⟩
  have admitted := Mailbox.admits_iff.mpr ⟨Config.sessionCapacity_pos checked, session_fits⟩
  have started := start?_unoccupied fits
  have entered := enter?_gathered admitted
  refine ⟨company, ⟨gathered config, script.map .scene, none⟩, ?_, fun cues stage follows => ?_,
    fun visit now => ?_⟩
  · simp only [open?, started, entered, Option.bind_eq_bind, Option.bind_some]
    rfl
  · let at_ : Timestamp := ⟨0, 0, by decide, by decide, by decide⟩
    have course : OnCourse config company at_ ⟨gathered config, script.map .scene, none⟩ :=
      Or.inl ⟨rfl, [], beats, [], [], gathered_playing at_ fits admitted⟩
    have steps := Stage.length_of_follow follows
    have work : Stage.effort ⟨gathered config, script.map .scene, none⟩ = 70 := rfl
    have onward := course.follow company_apart checked follows
    refine ⟨by omega, ?_⟩
    cases ended : stage.outcome with
    | none => exact Or.inl ⟨rfl, onward.goes_on ended⟩
    | some outcome =>
        rcases onward with ⟨running, -⟩ | verdict
        · rw [ended] at running
          contradiction
        · exact Or.inr (ended ▸ verdict)
  · have outcome := playAll_outcome visit now company_apart checked script
      (gathered_playing now fits admitted)
    refine ⟨{ playAll visit now company script (gathered config) with
      server := (leave company (playAll visit now company script (gathered config)).server).shutDown
        visit now }, ?_, outcome⟩
    rw [run?, started, Option.bind_eq_bind, Option.bind_some, entered]
    rfl

/-- In the smallest mailboxes, with the room that one of the users moves to as the default room. -/
theorem conversation_ends_of_two_messages :
    let now : Timestamp := ⟨0, 0, by decide, by decide, by decide⟩
    (⟨"rust", 2, 1, 1⟩ : Config).check = .ok () ∧ 1 ≤ Mailbox.maxCapacity ∧
      (⟨"rust", 2, 1, 1⟩ : Config).sessionCapacity ≤ Mailbox.maxCapacity ∧
      ∃ report, run? .enrolled now ⟨"rust", 2, 1, 1⟩ = some report ∧ report.outcome = .ok () := by
  intro now
  have checked : (⟨"rust", 2, 1, 1⟩ : Config).check = .ok () := by decide +kernel
  have hub_fits : 1 ≤ Mailbox.maxCapacity := by decide
  have session_fits : (⟨"rust", 2, 1, 1⟩ : Config).sessionCapacity ≤ Mailbox.maxCapacity := by
    decide
  obtain ⟨_, _, -, -, runs⟩ := conversation_ends _ checked hub_fits session_fits
  exact ⟨checked, hub_fits, session_fits, runs .enrolled now⟩

theorem conversation_fails_of_one_message :
    let now : Timestamp := ⟨0, 0, by decide, by decide, by decide⟩
    (⟨"general", 1, 64, 64⟩ : Config).check = .ok () ∧
      (run? .enrolled now ⟨"general", 1, 64, 64⟩).map (·.outcome) = some (.error .timedOut) := by
  decide +kernel

end Program

end ChatRooms.Demo
