import ChatRooms.Proofs.Demo.Plot
import ChatRooms.Proofs.Demo.Schedule
import ChatRooms.Proofs.Server.Admission
import ChatRooms.Proofs.Server.Inbox
import ChatRooms.Proofs.Terminal.Script

/-! The state of a conversation that is on its way: what was asked of the hub and is still queued,
what the hub looks like, how many events each user was told and has not taken. A turn of the hub and
a move of a user keep it, and an event that is waited for is there when the hub has nothing left to
do, but for one at the ending. -/
namespace ChatRooms.Demo

open Server

section Plan

def Beat.part (hall : String) (at_ : Timestamp) : Beat → Part
  | .ask plea => .move plea.role (.send (plea.command hall at_))
  | .enter role place => .move role (.enter (place.room hall))
  | .await role => .scene (.await role)

def afterWish (session : Session) : Wish → Session
  | .switchRoom room => session.enter room
  | _ => session

def plan (at_ : Timestamp) : (Role → Session) → List Part → List Part
  | _, [] => []
  | sessions, .scene (.heading _) :: todo => plan at_ sessions todo
  | sessions, .scene (.await role) :: todo => .scene (.await role) :: plan at_ sessions todo
  | sessions, .scene (.wish role wish) :: todo =>
      ((sessions role).moves at_ wish).map (.move role) ++
        plan at_ (Function.update sessions role (afterWish (sessions role) wish)) todo
  | sessions, .move role (.send command) :: todo =>
      .move role (.send (command.stamped at_)) :: plan at_ sessions todo
  | sessions, .move role (.enter room) :: todo =>
      .move role (.enter room) ::
        plan at_ (Function.update sessions role ((sessions role).enter room)) todo

def sessionOf (cast : Cast) (hall : String) (done : List Beat) (role : Role) : Session :=
  ⟨cast.id role, role.name, (placeOf done role).room hall⟩

variable {cast : Cast} {hall : String} {at_ : Timestamp} {todo : List Part} {rest : List Beat}
  {sessions : Role → Session}

-- It makes no difference whether a wish is still to come or has become moves.
theorem plan_wish (now : Timestamp) (role : Role) (wish : Wish) :
    plan at_ sessions (((sessions role).moves now wish).map (.move role) ++ todo) =
      plan at_ sessions (.scene (.wish role wish) :: todo) := by
  cases wish <;>
    simp [plan, Session.moves, Command.stamped, afterWish, Session.letter, Function.update_eq_self]

theorem plan_script (cast : Cast) (hall : String) (at_ : Timestamp) :
    plan at_ (sessionOf cast hall []) (script.map .scene) = beats.map (Beat.part hall at_) := by
  rfl

theorem sessionOf_enter (done : List Beat) (role : Role) (place : Place) :
    Function.update (sessionOf cast hall done) role
        ((sessionOf cast hall done role).enter (place.room hall)) =
      sessionOf cast hall (done ++ [.enter role place]) := by
  funext other
  by_cases same : other = role
  · subst same
    simp [sessionOf, placeOf_enter, Session.enter]
  · simp [sessionOf, placeOf_enter, same]

theorem command_of_stamped {command : Command} {plea : Plea}
    (same : command.stamped at_ = plea.command hall at_) :
    ∃ written, command = plea.command hall written := by
  cases command with
  | direct letter =>
      cases plea with
      | direct role other content =>
          simp only [Command.stamped, Plea.command, Command.direct.injEq,
            DirectMessage.mk.injEq] at same
          refine ⟨letter.sentAt, ?_⟩
          simp [Plea.command, ← same.1, ← same.2.1, ← same.2.2.1]
      | connect | disconnect | post | listUsers => cases same
  | connect | disconnect | post | listUsers => exact ⟨at_, same⟩

end Plan

/-- What the hub looks like when it has carried out these requests. Three messages are all that is
said, so a room that keeps more is like one that keeps three. -/
def pictured (config : Config) (past : List Plea) : Sketch :=
  sketchOf (config.defaultRoom = "rust") (min config.historySize 3) past

/-- A server in the middle of the conversation: what is done, which of the requests the hub has
carried out, and which are queued. What a user was told and has not taken is in the mailbox. -/
structure Afoot (config : Config) (cast : Cast) (server : Server) (done : List Beat)
    (past waiting : List Plea) : Prop where
  orderly : server.Orderly
  provisioned : server.Provisioned config
  armed : server.hub.signal = .armed
  alone : server.consoles = []
  pleas : asked done = past ++ waiting
  seats : ∀ role, server.seat? (cast.id role) =
    some ⟨sessionOf cast config.defaultRoom done role, true, true⟩
  queued : List.Forall₂ (fun plea request => ∃ at_, request =
    plea.request cast config.defaultRoom at_) waiting server.queued
  depicted : (pictured config past).Depicts cast config.defaultRoom config.historySize
    server.registry
  opened : ∀ role, (server.mail.box (cast.id role)).isOpen = true
  told : ∀ role, (server.mail.box (cast.id role)).queue.length + awaited done role =
    (pictured config past).told role

section Afoot

variable {config : Config} {cast : Cast} {server after : Server} {done rest : List Beat}
  {past waiting : List Plea} {visit : Visit} {now : Timestamp}

theorem Afoot.serving (afoot : Afoot config cast server done past waiting) :
    server.hub.Serving :=
  afoot.orderly.serving afoot.armed

theorem deep_of_checked (checked : config.check = .ok ()) :
    min config.historySize 3 ∈ [1, 2, 3] := by
  obtain ⟨-, history, -, -⟩ := Config.check_eq_ok_iff.mp checked
  have cases : min config.historySize 3 = 1 ∨ min config.historySize 3 = 2 ∨
      min config.historySize 3 = 3 := by omega
  simpa using cases

-- Events that find room are all there afterwards.
theorem putAll_of_room {box : Mailbox Event} {events : List Event} (opened : box.isOpen = true)
    (room : box.queue.length + events.length ≤ box.capacity) :
    (box.putAll events).isOpen = true ∧
      (box.putAll events).queue.length = box.queue.length + events.length := by
  have all : box.taken events = events := by
    rw [Mailbox.taken, if_pos opened, List.take_of_length_le]
    omega
  rw [Mailbox.putAll_open, Mailbox.putAll_queue, all, List.length_append]
  exact ⟨opened, rfl⟩

/-- The hub carries out what was asked next, and what it tells finds room. -/
theorem Afoot.applied (visit : Visit) (now at_ : Timestamp) (apart : Function.Injective cast.id)
    (checked : config.check = .ok ()) (script : done ++ rest = beats)
    (soon : done.length ≤ ending (min config.historySize 3)) {plea : Plea}
    (afoot : Afoot config cast server done past (plea :: waiting)) :
    let after := (server.hub.state.exchange.apply visit now
      (plea.request cast config.defaultRoom at_)).1
    (pictured config (past ++ [plea])).Depicts cast config.defaultRoom config.historySize
        after.hub ∧
      ∀ role, (after.mail.box (cast.id role)).isOpen = true ∧
        (after.mail.box (cast.id role)).queue.length + awaited done role =
          (pictured config (past ++ [plea])).told role := by
  intro after
  have deep := deep_of_checked checked
  have sound := afoot.orderly.sound
  have next : pictured config (past ++ [plea]) = (pictured config past).after
      (config.defaultRoom = "rust") (min config.historySize 3) plea := sketchOf_append _ _ _ _
  obtain ⟨granted, few⟩ : (pictured config past).grants plea = true ∧
      (pictured config past).posts.length ≤ 3 := granted_of_next deep script afoot.pleas
  have nobody : Exchange.swept visit now server.hub.state.exchange
      (plea.request cast config.defaultRoom at_) = [] :=
    swept_of_depicts afoot.depicted sound afoot.opened
  refine ⟨?_, fun role => ?_⟩
  · rw [next]
    exact afoot.depicted.apply _ _ apart granted afoot.provisioned.exchange.kept nobody
  · let box := server.hub.state.exchange.mail.box (cast.id role)
    let events := addressed (cast.id role) (Exchange.tries visit now server.hub.state.exchange
      (plea.request cast config.defaultRoom at_))
    have hears : events.length = (pictured config past).tells (config.defaultRoom = "rust")
        (min config.historySize 3) plea role := by
      rw [← tells_depth few, ← told_of_depicts apart sound.keyed afoot.depicted role granted]
      simp only [events, Exchange.tries, nobody]
      exact congrArg (fun tried => (addressed _ tried).length) (List.append_nil _)
    have fits : (pictured config (past ++ [plea])).told role ≤
        awaited done role + min config.historySize 3 + 1 :=
      fits_of_next deep script soon afoot.pleas role
    have told : box.queue.length + awaited done role = (pictured config past).told role :=
      afoot.told role
    have more : (pictured config (past ++ [plea])).told role =
        (pictured config past).told role + events.length := by
      rw [next, hears]
      rfl
    obtain ⟨sized, admitted⟩ := afoot.provisioned.exchange.sized (cast.id role) (afoot.opened role)
    have roomy := historySize_lt admitted
    have room : box.queue.length + events.length ≤ box.capacity := by
      simp only [box, sized] at told ⊢
      omega
    have wide : box.isOpen = true := afoot.opened role
    obtain ⟨opened, longer⟩ := putAll_of_room wide room
    have put : after.mail.box (cast.id role) = box.putAll events :=
      Exchange.apply_box visit now server.hub.state.exchange _ _
    rw [put, longer, more]
    exact ⟨opened, by omega⟩

theorem Afoot.turned (apart : Function.Injective cast.id) (checked : config.check = .ok ())
    (script : done ++ rest = beats) (soon : done.length ≤ ending (min config.historySize 3))
    (afoot : Afoot config cast server done past waiting)
    (turned : server.hubTurn? visit now = some after) :
    ∃ past waiting, Afoot config cast after done past waiting := by
  have passes : server.Passes none after := .hub visit now after turned
  have orderly := passes.orderly afoot.orderly
  have provisioned := passes.provisioned afoot.provisioned
  cases hubTurn_of_some turned with
  | waits => exact ⟨past, waiting, afoot⟩
  | start scheduled =>
      exact ⟨past, waiting, orderly, provisioned, afoot.armed, afoot.alone, afoot.pleas,
        afoot.seats, afoot.queued, afoot.depicted, afoot.opened, afoot.told⟩
  | handle request queue running untold queued =>
      have requests := afoot.queued
      rw [queued] at requests
      cases requests with
      | @cons plea _ waiting _ asked others =>
          obtain ⟨at_, rfl⟩ := asked
          obtain ⟨depicted, boxes⟩ := afoot.applied visit now at_ apart checked script soon
          have box (role : Role) := Service.handle_box visit now server.hub.state
            (plea.request cast config.defaultRoom at_) (cast.id role)
          refine ⟨past ++ [plea], waiting, orderly, provisioned, afoot.armed, afoot.alone,
            ?_, afoot.seats, others, ?_, fun role => ?_, fun role => ?_⟩
          · rw [afoot.pleas, List.append_cons]
          · rw [registry, Service.handle_hub]
            exact depicted
          · rw [mail, box]
            exact (boxes role).1
          · rw [mail, box]
            exact (boxes role).2
  | finish running ended =>
      have goes_on := afoot.serving.goes_on afoot.armed
      exact absurd (ended.imp_right And.left) goes_on

theorem Afoot.sent {plea : Plea} {at_ : Timestamp}
    (afoot : Afoot config cast server done past waiting)
    (taken : server.offer (cast.id plea.role) (plea.command config.defaultRoom at_) = .ok after) :
    Afoot config cast after (done ++ [.ask plea]) past (waiting ++ [plea]) := by
  have passes : server.Passes none after :=
    .offer (cast.id plea.role) _ _ after (afoot.seats plea.role) rfl taken
  obtain ⟨registry, queued, -, seats, consoles⟩ := offer_ok taken
  have boxes (role : Role) : after.mail.box (cast.id role) = server.mail.box (cast.id role) := by
    rw [offer_accepted taken]
    exact Mailroom.box_share _ _ _
  have placed (role : Role) : sessionOf cast config.defaultRoom (done ++ [.ask plea]) role =
      sessionOf cast config.defaultRoom done role := by
    simp [sessionOf, placeOf]
  refine ⟨passes.orderly afoot.orderly, passes.provisioned afoot.provisioned, ?_, ?_, ?_,
    fun role => ?_, ?_, ?_, fun role => ?_, fun role => ?_⟩
  · rw [offer_accepted taken]
    exact afoot.armed
  · rw [consoles, afoot.alone]
  · rw [asked_append, afoot.pleas, List.append_assoc]
    rfl
  · rw [placed, seat?, seats]
    exact afoot.seats role
  · rw [queued]
    exact List.rel_append afoot.queued (.cons ⟨at_, rfl⟩ .nil)
  · rw [registry]
    exact afoot.depicted
  · rw [boxes]
    exact afoot.opened role
  · rw [boxes, awaited_append]
    exact afoot.told role

theorem Afoot.entered (apart : Function.Injective cast.id) {role : Role} {place : Place}
    (afoot : Afoot config cast server done past waiting) :
    Afoot config cast (server.enterRoom (cast.id role) (place.room config.defaultRoom))
      (done ++ [.enter role place]) past waiting := by
  have found := afoot.seats role
  have entered : server.enterRoom (cast.id role) (place.room config.defaultRoom) =
      server.setSeat { (⟨sessionOf cast config.defaultRoom done role, true, true⟩ : Seat) with
        session := (sessionOf cast config.defaultRoom done role).enter
          (place.room config.defaultRoom) } := by
    rw [enterRoom, found]
  have passes : server.Passes none _ := .enter _ _ (place.room config.defaultRoom) found
  rw [entered]
  refine ⟨passes.orderly afoot.orderly, passes.provisioned afoot.provisioned, afoot.armed,
    afoot.alone, ?_, fun other => ?_, afoot.queued, afoot.depicted, afoot.opened, fun other => ?_⟩
  · rw [asked_append, afoot.pleas]
    exact List.append_nil _
  · rw [seat?_replaced found rfl, afoot.seats other, ← sessionOf_enter]
    by_cases self : other = role
    · subst self
      rw [if_pos rfl, Function.update_self]
    · rw [if_neg (apart.ne (Ne.symm self)), Function.update_of_ne self]
  · rw [awaited_append]
    exact afoot.told other

-- Looking into a mailbox takes the oldest event out, and nothing else.
theorem Afoot.polled {role : Role} {more : List Beat}
    (afoot : Afoot config cast server done past waiting) (silent : asked more = [])
    (stays : placeOf (done ++ more) = placeOf done)
    (told : ∀ other, (if cast.id other = cast.id role then
        (server.mail.box (cast.id other)).queue.tail
      else (server.mail.box (cast.id other)).queue).length + awaited (done ++ more) other =
        (pictured config past).told other) :
    Afoot config cast (server.poll (cast.id role)).2 (done ++ more) past waiting := by
  have found := afoot.seats role
  have passes : server.Passes none _ := .poll _ _ found
  have boxes (other : Role) := Mailroom.box_receive server.mail (cast.id role) (cast.id other)
  have placed (other : Role) : sessionOf cast config.defaultRoom (done ++ more) other =
      sessionOf cast config.defaultRoom done other := by
    simp only [sessionOf, stays]
  refine ⟨passes.orderly afoot.orderly, passes.provisioned afoot.provisioned, afoot.armed,
    afoot.alone, ?_, fun other => ?_, afoot.queued, afoot.depicted, fun other => ?_,
    fun other => ?_⟩
  · rw [asked_append, silent, List.append_nil]
    exact afoot.pleas
  · rw [placed]
    exact afoot.seats other
  · refine (congrArg Mailbox.isOpen (boxes other)).trans ?_
    split <;> exact afoot.opened other
  · have queue := congrArg (fun box => box.queue.length) (boxes other)
    rw [← told other]
    refine congrArg (· + _) (queue.trans ?_)
    split <;> rfl

-- Every user has the handle, so an empty mailbox is one that can still be filled.
theorem Afoot.poll_of_nil {role : Role} (afoot : Afoot config cast server done past waiting)
    (nothing : (server.mail.box (cast.id role)).queue = []) :
    (server.poll (cast.id role)).1 = .empty := by
  have held : server.hasAddress (cast.id role) = true := by
    simp [hasAddress, holds, afoot.seats role]
  rw [afoot.orderly.poll_of_nil nothing, if_pos held]

theorem Afoot.looks {role : Role} (afoot : Afoot config cast server done past waiting)
    (nothing : (server.mail.box (cast.id role)).queue = []) :
    ∃ looked, server.poll (cast.id role) = (.empty, looked) ∧
      Afoot config cast looked done past waiting := by
  have told (other : Role) : (if cast.id other = cast.id role then
      (server.mail.box (cast.id other)).queue.tail
    else (server.mail.box (cast.id other)).queue).length + awaited (done ++ []) other =
      (pictured config past).told other := by
    rw [List.append_nil, ← afoot.told other]
    by_cases self : cast.id other = cast.id role
    · rw [if_pos self, self, nothing]
      rfl
    · rw [if_neg self]
  have same := afoot.polled rfl (by rw [List.append_nil]) told
  rw [List.append_nil] at same
  exact ⟨_, Prod.ext (afoot.poll_of_nil nothing) rfl, same⟩

theorem Afoot.taken (apart : Function.Injective cast.id) {role : Role} {event : Event}
    {events : List Event} (afoot : Afoot config cast server done past waiting)
    (arrived : (server.mail.box (cast.id role)).queue = event :: events) :
    Afoot config cast (server.poll (cast.id role)).2 (done ++ [.await role]) past waiting := by
  refine afoot.polled rfl (by simp [placeOf]) fun other => ?_
  have told := afoot.told other
  rw [awaited_append]
  by_cases self : other = role
  · subst self
    have once : awaited [.await other] other = 1 := by simp [awaited]
    rw [arrived, List.length_cons] at told
    rw [if_pos rfl, arrived, List.tail_cons, once]
    omega
  · have never : awaited [.await role] other = 0 := by simp [awaited, Ne.symm self]
    rw [if_neg (apart.ne self), never]
    exact told

theorem queued_of_stuck (afoot : Afoot config cast server done past waiting)
    (stuck : server.hubTurn? visit now = none) : server.queued = [] := by
  have loop := Option.map_eq_none_iff.mp stuck
  rcases afoot.serving.awake with scheduled | running
  · simp [Loop.turn?, scheduled] at loop
  · cases queued : server.queued with
    | nil => rfl
    | cons request rest =>
        have untold : server.hub.signal ≠ .raised := by simp [afoot.armed]
        rw [Loop.turn?_of_message running untold queued] at loop
        contradiction

theorem Afoot.waiting_nil (afoot : Afoot config cast server done past waiting)
    (stuck : server.hubTurn? visit now = none) : waiting = [] := by
  have none_queued : server.queued = [] := queued_of_stuck afoot stuck
  have requests := afoot.queued
  rw [none_queued] at requests
  exact List.forall₂_nil_right_iff.mp requests

/-- An event that is waited for is there when the hub has nothing left to do. -/
theorem Afoot.arrives (checked : config.check = .ok ()) {role : Role}
    (afoot : Afoot config cast server done past waiting) (idle : waiting = [])
    (script : done ++ .await role :: rest = beats)
    (soon : done.length < ending (min config.historySize 3)) :
    (server.mail.box (cast.id role)).queue ≠ [] := by
  intro nothing
  have served : awaited done role < (pictured config (asked done)).told role :=
    served_of_await (deep_of_checked checked) script soon
  have told := afoot.told role
  rw [afoot.pleas, idle, List.append_nil, ← told, nothing] at served
  simp at served

/-- At the ending it never comes. -/
theorem Afoot.dry (checked : config.check = .ok ()) {role : Role}
    (afoot : Afoot config cast server done past waiting)
    (script : done ++ .await role :: rest = beats)
    (last : done.length = ending (min config.historySize 3)) :
    (server.mail.box (cast.id role)).queue = [] ∧ config.historySize = 1 := by
  obtain ⟨-, history, -, -⟩ := Config.check_eq_ok_iff.mp checked
  rcases unserved_of_ending (config.defaultRoom = "rust") (deep_of_checked checked) script
    last with ⟨-, nothing⟩ | ⟨shallow, waiter, later, same, unserved⟩
  · contradiction
  · cases same
    have told := afoot.told role
    have most := told_le_append (config.defaultRoom = "rust") (min config.historySize 3) past
      waiting role
    rw [← afoot.pleas, unserved] at most
    refine ⟨List.length_eq_zero_iff.mp ?_, by omega⟩
    unfold pictured at told
    omega

-- The hub takes what is offered, unless it has something to do.
theorem Afoot.offer (afoot : Afoot config cast server done past waiting) (sender : ClientId)
    (command : Command) : (∃ after, server.offer sender command = .ok after) ∨
      (server.offer sender command = .error .full ∧ server.queued ≠ []) := by
  have serving := afoot.serving
  rcases server.hub.offer_cases ⟨sender, command⟩ with
    ⟨closed, -⟩ | ⟨-, -, taken⟩ | ⟨-, no_room, full⟩
  · cases closed.symm.trans serving.opened
  · exact Or.inl ⟨_, by rw [Server.offer, taken]; rfl⟩
  · refine Or.inr ⟨by rw [Server.offer, full]; rfl, fun empty => ?_⟩
    have none_queued : server.hub.channel.box.queue = [] := empty
    rw [none_queued] at no_room
    exact absurd serving.roomy (Nat.not_lt_of_le no_room)

end Afoot

section Parts

variable {hall : String} {at_ : Timestamp} {beat : Beat} {role : Role} {depth : Nat}
  {done rest : List Beat}

theorem ask_of_part {command : Command}
    (same : beat.part hall at_ = .move role (.send command)) :
    ∃ plea, beat = .ask plea ∧ plea.role = role ∧ plea.command hall at_ = command := by
  cases beat with
  | ask plea =>
      cases same
      exact ⟨plea, rfl, rfl, rfl⟩
  | enter | await => cases same

theorem enter_of_part {room : String} (same : beat.part hall at_ = .move role (.enter room)) :
    ∃ place, beat = .enter role place ∧ place.room hall = room := by
  cases beat with
  | enter _ place =>
      cases same
      exact ⟨place, rfl, rfl⟩
  | ask | await => cases same

theorem await_of_part (same : beat.part hall at_ = .scene (.await role)) : beat = .await role := by
  cases beat with
  | await => cases same; rfl
  | ask | enter => cases same

-- Only somebody who waits can be at the ending with something left to do.
theorem soon_of_active (deep : depth ∈ [1, 2, 3]) (script : done ++ beat :: rest = beats)
    (soon : done.length ≤ ending depth) (active : ∀ role, beat ≠ .await role) :
    (done ++ [beat]).length ≤ ending depth := by
  rw [List.length_append, List.length_singleton]
  rcases Nat.lt_or_eq_of_le soon with before | last
  · exact before
  · rcases unserved_of_ending true deep script last with
      ⟨-, nothing⟩ | ⟨-, waiter, later, same, -⟩
    · contradiction
    · cases same
      exact absurd rfl (active waiter)

theorem sessionOf_ask (cast : Cast) (done : List Beat) (plea : Plea) :
    sessionOf cast hall (done ++ [.ask plea]) = sessionOf cast hall done := by
  funext role
  simp [sessionOf, placeOf]

theorem sessionOf_await (cast : Cast) (done : List Beat) (role : Role) :
    sessionOf cast hall (done ++ [.await role]) = sessionOf cast hall done := by
  funext other
  simp [sessionOf, placeOf]

end Parts

def verdict (config : Config) : Except SessionError Unit :=
  if 2 ≤ config.historySize then .ok () else .error .timedOut

structure Playing (config : Config) (cast : Cast) (at_ : Timestamp) (server : Server)
    (todo : List Part) (done rest : List Beat) (past waiting : List Plea) : Prop where
  afoot : Afoot config cast server done past waiting
  script : done ++ rest = beats
  soon : done.length ≤ ending (min config.historySize 3)
  plan : plan at_ (sessionOf cast config.defaultRoom done) todo =
    rest.map (Beat.part config.defaultRoom at_)

section Playing

variable {config : Config} {cast : Cast} {at_ now : Timestamp} {visit : Visit}
  {server after : Server} {todo : List Part} {done rest : List Beat} {past waiting : List Plea}
  {role : Role}

theorem Playing.finished (checked : config.check = .ok ())
    (playing : Playing config cast at_ server [] done rest past waiting) :
    verdict config = .ok () := by
  obtain ⟨-, history, -, -⟩ := Config.check_eq_ok_iff.mp checked
  have nothing : rest = [] := List.map_eq_nil_iff.mp playing.plan.symm
  have script := playing.script
  rw [nothing, List.append_nil] at script
  have soon := playing.soon
  rw [script] at soon
  refine if_pos ?_
  by_contra shallow
  have one : min config.historySize 3 = 1 := by omega
  rw [one] at soon
  revert soon
  decide

theorem Playing.heading {text : String}
    (playing : Playing config cast at_ server (.scene (.heading text) :: todo) done rest past
      waiting) : Playing config cast at_ server todo done rest past waiting :=
  ⟨playing.afoot, playing.script, playing.soon, playing.plan⟩

theorem Playing.wish {wish : Wish} (now : Timestamp)
    (playing : Playing config cast at_ server (.scene (.wish role wish) :: todo) done rest past
      waiting) : Playing config cast at_ server
        (((sessionOf cast config.defaultRoom done role).moves now wish).map (.move role) ++ todo)
        done rest past waiting :=
  ⟨playing.afoot, playing.script, playing.soon, (plan_wish now role wish).trans playing.plan⟩

theorem Playing.send (checked : config.check = .ok ()) {command : Command}
    (playing : Playing config cast at_ server (.move role (.send command) :: todo) done rest past
      waiting) (taken : server.offer (cast.id role) command = .ok after) :
    ∃ done rest past waiting, Playing config cast at_ after todo done rest past waiting := by
  obtain ⟨afoot, script, soon, left⟩ := playing
  obtain ⟨beat, rest, rfl, first, others⟩ := List.map_eq_cons_iff.mp left.symm
  obtain ⟨plea, rfl, rfl, same⟩ := ask_of_part first
  obtain ⟨written, rfl⟩ := command_of_stamped same.symm
  refine ⟨_, rest, _, _, afoot.sent taken, by simpa using script,
    soon_of_active (deep_of_checked checked) script soon (by simp), ?_⟩
  rw [sessionOf_ask]
  exact others.symm

theorem Playing.enter (apart : Function.Injective cast.id) (checked : config.check = .ok ())
    {room : String}
    (playing : Playing config cast at_ server (.move role (.enter room) :: todo) done rest past
      waiting) :
    ∃ done rest, Playing config cast at_ (server.enterRoom (cast.id role) room) todo done rest past
      waiting := by
  obtain ⟨afoot, script, soon, left⟩ := playing
  obtain ⟨beat, rest, rfl, first, others⟩ := List.map_eq_cons_iff.mp left.symm
  obtain ⟨place, rfl, rfl⟩ := enter_of_part first
  refine ⟨_, rest, afoot.entered apart, by simpa using script,
    soon_of_active (deep_of_checked checked) script soon (by simp), ?_⟩
  rw [← sessionOf_enter]
  exact others.symm

theorem Playing.take (apart : Function.Injective cast.id) (checked : config.check = .ok ())
    {event : Event} {events : List Event}
    (playing : Playing config cast at_ server (.scene (.await role) :: todo) done rest past waiting)
    (arrived : (server.mail.box (cast.id role)).queue = event :: events) :
    ∃ taken, server.poll (cast.id role) = (.message event, taken) ∧
      ∃ done rest, Playing config cast at_ taken todo done rest past waiting := by
  obtain ⟨afoot, script, soon, left⟩ := playing
  obtain ⟨beat, rest, rfl, first, others⟩ := List.map_eq_cons_iff.mp left.symm
  obtain rfl := await_of_part first
  refine ⟨_, Prod.ext (poll_of_cons arrived).1 rfl, _, rest, afoot.taken apart arrived,
    by simpa using script, ?_, ?_⟩
  · rw [List.length_append, List.length_singleton]
    refine Nat.lt_of_le_of_ne soon fun last => ?_
    rw [(afoot.dry checked script last).1] at arrived
    contradiction
  · rw [sessionOf_await]
    exact others.symm

/-- Whoever finds nothing when the hub has nothing left to do is at the ending. -/
theorem Playing.stranded (checked : config.check = .ok ())
    (playing : Playing config cast at_ server (.scene (.await role) :: todo) done rest past [])
    (nothing : (server.mail.box (cast.id role)).queue = []) :
    verdict config = .error .timedOut := by
  obtain ⟨afoot, script, soon, left⟩ := playing
  obtain ⟨beat, rest, rfl, first, -⟩ := List.map_eq_cons_iff.mp left.symm
  obtain rfl := await_of_part first
  rcases Nat.lt_or_eq_of_le soon with before | last
  · exact absurd nothing (afoot.arrives checked rfl script before)
  · refine if_neg ?_
    rw [(afoot.dry checked script last).2]
    decide

theorem Playing.turned (apart : Function.Injective cast.id) (checked : config.check = .ok ())
    (playing : Playing config cast at_ server todo done rest past waiting)
    (turned : server.hubTurn? visit now = some after) :
    ∃ past waiting, Playing config cast at_ after todo done rest past waiting := by
  obtain ⟨past, waiting, afoot⟩ :=
    playing.afoot.turned apart checked playing.script playing.soon turned
  exact ⟨past, waiting, afoot, playing.script, playing.soon, playing.plan⟩

end Playing

end ChatRooms.Demo
