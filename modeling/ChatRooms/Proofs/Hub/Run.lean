import ChatRooms.Proofs.History
import ChatRooms.Proofs.Hub.Effect

/-! Runs of a hub. Requests, resets, and what clients do with their mailboxes and addresses follow
each other in any order. An act that cannot take place changes nothing, so every list of acts is a
run. -/
namespace ChatRooms.Exchange

inductive Act where
  | arrive (client : ClientId) (capacity : Nat)
  | share (client : ClientId)
  | release (client : ClientId)
  | ask (visit : Visit) (now : Timestamp) (request : Request)
  | read (client : ClientId)
  | close (client : ClientId)
  | reset

def arrive (exchange : Exchange) (client : ClientId) (capacity : Nat) : Exchange :=
  if exchange.mail.channels.any (·.1 = client) then exchange
  else { exchange with mail := (exchange.mail.open? client capacity).getD exchange.mail }

def step (exchange : Exchange) : Act → Exchange
  | .arrive client capacity => exchange.arrive client capacity
  | .share client => { exchange with mail := exchange.mail.share client }
  | .release client => { exchange with mail := exchange.mail.release client }
  | .ask visit now request => (exchange.apply visit now request).1
  | .read client => { exchange with mail := (exchange.mail.receive client).2 }
  | .close client => { exchange with mail := exchange.mail.close client }
  | .reset => exchange.reset

def run (exchange : Exchange) (acts : List Act) : Exchange :=
  acts.foldl step exchange

def reached (config : Config) (acts : List Act) : Exchange :=
  (create config).run acts

@[simp] theorem run_nil (exchange : Exchange) : exchange.run [] = exchange := rfl

@[simp] theorem run_cons (exchange : Exchange) (act : Act) (rest : List Act) :
    exchange.run (act :: rest) = (exchange.step act).run rest := rfl

theorem run_append (exchange : Exchange) (first second : List Act) :
    exchange.run (first ++ second) = (exchange.run first).run second := by
  simp [run]

theorem reached_append (config : Config) (first second : List Act) :
    reached config (first ++ second) = (reached config first).run second :=
  run_append _ _ _

def arrivals (client : ClientId) (exchange : Exchange) (act : Act) : List Event :=
  ((exchange.step act).mail.box client).queue.drop (exchange.mail.box client).queue.length

def received (client : ClientId) : Exchange → List Act → List Event
  | _, [] => []
  | exchange, act :: rest =>
      arrivals client exchange act ++ received client (exchange.step act) rest

/-- Every delivery that an act tries at a client finds its mailbox open and not full. -/
def Admits (client : ClientId) (exchange : Exchange) : Act → Prop
  | .ask visit now request =>
      (exchange.mail.box client).acceptsAll
        (addressed client (tries visit now exchange request)) = true
  | _ => True

def AdmitsAll (client : ClientId) : Exchange → List Act → Prop
  | _, [] => True
  | exchange, act :: rest =>
      Admits client exchange act ∧ AdmitsAll client (exchange.step act) rest

def Stays (client : ClientId) : Exchange → List Act → Prop
  | _, [] => True
  | exchange, act :: rest =>
      exchange.hub.isRegistered client = true ∧ Stays client (exchange.step act) rest

theorem arrivals_ask (client : ClientId) (exchange : Exchange) (visit : Visit) (now : Timestamp)
    (request : Request) : arrivals client exchange (.ask visit now request) =
      (exchange.mail.box client).taken (addressed client (tries visit now exchange request)) := by
  simp [arrivals, step, apply_box, Mailbox.putAll_queue]

-- What a request puts in a mailbox comes behind what is there, and nothing is taken out.
theorem ask_queue (client : ClientId) (exchange : Exchange) (visit : Visit) (now : Timestamp)
    (request : Request) :
    ((exchange.step (.ask visit now request)).mail.box client).queue =
      (exchange.mail.box client).queue ++
        arrivals client exchange (.ask visit now request) := by
  rw [arrivals_ask, step, apply_box, Mailbox.putAll_queue]

theorem box_of_unknown {mail : Mailroom} {client : ClientId}
    (unknown : mail.channels.any (·.1 = client) = false) : mail.box client = Mailbox.absent := by
  have absent : mail.channels.find? (·.1 = client) = none := by
    simpa using unknown
  simp [Mailroom.box, Mailroom.channel, absent]

theorem arrive_hub (exchange : Exchange) (client : ClientId) (capacity : Nat) :
    (exchange.arrive client capacity).hub = exchange.hub := by
  unfold arrive
  split <;> rfl

theorem arrive_queue (client newcomer : ClientId) (exchange : Exchange) (capacity : Nat) :
    ((exchange.arrive newcomer capacity).mail.box client).queue =
      (exchange.mail.box client).queue := by
  unfold arrive
  split
  · rfl
  -- A new mailbox is as empty as the absent one that it takes the place of.
  · rename_i unknown
    have before := box_of_unknown (Bool.eq_false_iff.mpr unknown)
    unfold Mailroom.open? Channel.create? Mailbox.create?
    split
    · by_cases same : client = newcomer
      · subst same
        rw [before]
        simp [Mailroom.box, Mailbox.absent]
      · simp [Mailroom.box, Mailroom.channel_setChannel_ne _ _ same]
    · rfl

theorem receive_queue (client reader : ClientId) (mail : Mailroom) :
    (((mail.receive reader).2.box client).queue).length ≤ (mail.box client).queue.length := by
  by_cases same : client = reader
  · subst same
    unfold Mailroom.receive Channel.receive Mailbox.take?
    cases queued : (mail.channel client).box.queue with
    | nil => simp [Mailroom.box, queued]
    | cons event rest => simp [Mailroom.box, queued]
  · simp [Mailroom.receive, Mailroom.box, Mailroom.channel_setChannel_ne _ _ same]

theorem close_queue (client owner : ClientId) (mail : Mailroom) :
    ((mail.close owner).box client).queue.length ≤ (mail.box client).queue.length := by
  by_cases same : client = owner
  · subst same
    simp [Mailroom.close, Mailbox.close]
  · simp [Mailroom.close, Mailroom.box_setBox_ne _ _ same]

@[simp] theorem box_reset (exchange : Exchange) (client : ClientId) :
    exchange.reset.mail.box client = exchange.mail.box client := by
  have released (members : List Member) (mail : Mailroom) :
      (members.foldl (fun mail member => mail.release member.handle) mail).box client =
        mail.box client := by
    induction members generalizing mail with
    | nil => rfl
    | cons member rest ih => rw [List.foldl_cons, ih, Mailroom.box_release]
  exact released _ _

-- Nothing but a request puts anything in a mailbox.
theorem arrivals_of_quiet (client : ClientId) (exchange : Exchange) (act : Act)
    (quiet : ∀ visit now request, act ≠ .ask visit now request) :
    arrivals client exchange act = [] := by
  apply List.drop_eq_nil_of_le
  cases act with
  | arrive newcomer capacity => exact Nat.le_of_eq (by rw [step, arrive_queue])
  | share other => simp [step]
  | release other => simp [step]
  | ask visit now request => exact absurd rfl (quiet visit now request)
  | read reader => exact receive_queue client reader exchange.mail
  | close owner => exact close_queue client owner exchange.mail
  | reset => simp [step]

-- An act leaves a registered client in its room under its name, unless it removes the client.
theorem step_member? {exchange : Exchange} {client : ClientId} {member : Member} (act : Act)
    (found : exchange.hub.member? client = some member) {after : Member}
    (stays : (exchange.step act).hub.member? client = some after) : after = member := by
  cases act with
  | ask visit now request =>
      rw [step, apply_member?, found] at stays
      split at stays
      · contradiction
      · split at stays
        · contradiction
        · simpa using stays.symm
  | arrive newcomer capacity =>
      rw [step, arrive_hub, found] at stays
      exact (Option.some.inj stays).symm
  | reset => contradiction
  | share | release | read | close => exact (Option.some.inj (found.symm.trans stays)).symm

-- A client that has just been registered is so in the room and under the name that it gave.
theorem entrant_member? {exchange : Exchange} {visit : Visit} {now : Timestamp}
    {request : Request} {member after : Member}
    (entering : entrant? exchange.hub request = some member)
    (stays : (exchange.step (.ask visit now request)).hub.member? request.sender = some after) :
    after = member := by
  obtain ⟨user, room, asked, stranger, same⟩ := entrant?_eq_some entering
  rw [step, apply_member?, entering, Hub.member?_eq_none_iff.mpr stranger, asked] at stays
  split at stays
  · contradiction
  · simpa [same, Option.filter] using stays.symm

-- The default room and how much of the history is kept are set up once.
theorem step_settings (exchange : Exchange) (act : Act) :
    (exchange.step act).hub.defaultRoom = exchange.hub.defaultRoom ∧
      (exchange.step act).hub.history.capacity = exchange.hub.history.capacity := by
  cases act with
  | ask visit now request =>
      rw [step, apply_defaultRoom, apply_history]
      cases said? now exchange.hub request <;> exact ⟨rfl, rfl⟩
  | arrive newcomer capacity => rw [step, arrive_hub]; exact ⟨rfl, rfl⟩
  | reset | share | release | read | close => exact ⟨rfl, rfl⟩

theorem reached_settings (config : Config) (acts : List Act) :
    (reached config acts).hub.defaultRoom = config.defaultRoom ∧
      (reached config acts).hub.history.capacity = config.historySize := by
  have kept (exchange : Exchange) :
      (exchange.run acts).hub.defaultRoom = exchange.hub.defaultRoom ∧
        (exchange.run acts).hub.history.capacity = exchange.hub.history.capacity := by
    induction acts generalizing exchange with
    | nil => exact ⟨rfl, rfl⟩
    | cons act rest ih =>
        obtain ⟨room, capacity⟩ := ih (exchange.step act)
        obtain ⟨room_before, capacity_before⟩ := step_settings exchange act
        exact ⟨room.trans room_before, capacity.trans capacity_before⟩
  exact kept (create config)

theorem stays_append (client : ClientId) (exchange : Exchange) (first second : List Act) :
    Stays client exchange (first ++ second) ↔
      Stays client exchange first ∧ Stays client (exchange.run first) second := by
  induction first generalizing exchange with
  | nil => simp [Stays]
  | cons act rest ih => simp [Stays, ih, and_assoc]

theorem admitsAll_append (client : ClientId) (exchange : Exchange) (first second : List Act) :
    AdmitsAll client exchange (first ++ second) ↔
      AdmitsAll client exchange first ∧ AdmitsAll client (exchange.run first) second := by
  induction first generalizing exchange with
  | nil => simp [AdmitsAll]
  | cons act rest ih => simp [AdmitsAll, ih, and_assoc]

/-- What holds between the acts of a run: nobody is registered twice, no client waits to be removed,
and the messages kept of a room were said in it. -/
structure Sound (exchange : Exchange) : Prop where
  keyed : exchange.hub.Keyed
  swept : exchange.hub.closed = []
  filed : ∀ room, ∀ post ∈ exchange.hub.history.recent room, post.room = room

theorem Sound.allShut {exchange : Exchange} (sound : exchange.Sound) : exchange.AllShut := by
  intro client listed
  rw [sound.swept] at listed
  contradiction

theorem create_sound (config : Config) : (create config).Sound where
  keyed := Hub.keyed_of_nobody rfl
  swept := rfl
  filed := by
    intro room post kept
    contradiction

theorem apply_sound {exchange : Exchange} (visit : Visit) (now : Timestamp) (request : Request)
    (sound : exchange.Sound) : (exchange.apply visit now request).1.Sound where
  keyed := by
    refine (roster_keyed exchange.hub request sound.keyed).sublist ?_
    rw [apply_members]
    exact List.filter_sublist
  swept := apply_closed visit now exchange request
  filed := by
    intro room post kept
    rw [apply_history] at kept
    cases spoken : said? now exchange.hub request with
    | none => exact sound.filed room post (by simpa [spoken] using kept)
    | some new =>
        rw [spoken] at kept
        rcases History.mem_recent_push kept with before | ⟨rfl, rfl⟩
        · exact sound.filed room post before
        · rfl

theorem step_sound {exchange : Exchange} (act : Act) (sound : exchange.Sound) :
    (exchange.step act).Sound := by
  cases act with
  | arrive newcomer capacity =>
      have same := arrive_hub exchange newcomer capacity
      exact ⟨by rw [step, same]; exact sound.keyed, by rw [step, same]; exact sound.swept,
        by rw [step, same]; exact sound.filed⟩
  | ask visit now request => exact apply_sound visit now request sound
  | reset => exact ⟨Hub.keyed_of_nobody rfl, rfl, by intro room post kept; contradiction⟩
  | share | release | read | close => exact ⟨sound.keyed, sound.swept, sound.filed⟩

theorem run_sound {exchange : Exchange} (acts : List Act) (sound : exchange.Sound) :
    (exchange.run acts).Sound := by
  induction acts generalizing exchange with
  | nil => exact sound
  | cons act rest ih => exact ih (step_sound act sound)

theorem reached_sound (config : Config) (acts : List Act) : (reached config acts).Sound :=
  run_sound acts (create_sound config)

end ChatRooms.Exchange
