import ChatRooms.Proofs.Hub.Confinement
import ChatRooms.Proofs.Server.Departure
import ChatRooms.Proofs.Server.Ledger

/-! How a client will stand when the hub has handled what the client has asked so far. Nobody but
the client itself changes that, as long as its mailbox is open and the hub goes on: a request of
another leaves its registration alone, and a request of its own does what was reckoned with. -/
namespace ChatRooms

def commandsOf (id : ClientId) (requests : List Request) : List Command :=
  (requests.filter (·.sender = id)).map (·.command)

def stand (hub : Hub) (id : ClientId) (present : Option Member) : Command → Option Member
  | .connect user room => present.or (some ⟨id, id, user, hub.roomOrDefault room⟩)
  | .disconnect => none
  | .post _ _ _ | .direct _ | .listUsers _ => present

def standing (hub : Hub) (id : ClientId) (commands : List Command) : Option Member :=
  commands.foldl (stand hub id) (hub.member? id)

variable {hub after : Hub} {id : ClientId} {exchange : Exchange} {visit : Visit} {now : Timestamp}

theorem commandsOf_append (first second : List Request) :
    commandsOf id (first ++ second) = commandsOf id first ++ commandsOf id second := by
  simp [commandsOf]

theorem commandsOf_cons (request : Request) (rest : List Request) :
    commandsOf id (request :: rest) =
      (if request.sender = id then [request.command] else []) ++ commandsOf id rest := by
  by_cases own : request.sender = id <;> simp [commandsOf, own]

theorem stand_congr (same : after.defaultRoom = hub.defaultRoom) :
    stand after id = stand hub id := by
  funext present command
  cases command <;> simp [stand, Hub.roomOrDefault, same]

theorem standing_append (first second : List Command) :
    standing hub id (first ++ second) = second.foldl (stand hub id) (standing hub id first) :=
  List.foldl_append ..

-- A client with an open mailbox is not swept away, so only its own requests count.
theorem Exchange.apply_stands (sound : exchange.Sound)
    (opened : (exchange.mail.box id).isOpen = true) (request : Request) :
    (exchange.apply visit now request).1.hub.member? id =
      if request.sender = id then stand exchange.hub id (exchange.hub.member? id) request.command
      else exchange.hub.member? id := by
  rw [Exchange.apply_member?, if_neg (not_swept_of_open sound opened)]
  obtain ⟨sender, command⟩ := request
  by_cases own : sender = id
  · subst own
    cases command with
    | connect user room =>
        have entering : entrant? exchange.hub ⟨sender, .connect user room⟩ =
            if exchange.hub.isRegistered sender then none
            else some ⟨sender, sender, user, exchange.hub.roomOrDefault room⟩ := rfl
        rw [entering, Hub.isRegistered_eq_isSome]
        cases exchange.hub.member? sender <;> simp [stand, Option.filter]
    | disconnect => simp [stand]
    | post | direct | listUsers => simp [stand, entrant?]
  · have foreign : (entrant? exchange.hub ⟨sender, command⟩).filter (·.id = id) = none := by
      cases entering : entrant? exchange.hub ⟨sender, command⟩ with
      | none => rfl
      | some member =>
          obtain ⟨_, _, _, _, rfl⟩ := entrant?_eq_some entering
          simp [Option.filter, own]
    simp [own, foreign]

theorem Exchange.apply_standing (sound : exchange.Sound)
    (opened : (exchange.mail.box id).isOpen = true) (request : Request)
    (commands : List Command) :
    standing (exchange.apply visit now request).1.hub id commands =
      standing exchange.hub id
        ((if request.sender = id then [request.command] else []) ++ commands) := by
  rw [standing, stand_congr (Exchange.apply_defaultRoom visit now exchange request),
    Exchange.apply_stands sound opened, standing_append]
  by_cases own : request.sender = id <;> simp [own, standing]

theorem foldl_stand_fits {fits : Member → Bool} {queue : List Request} {present : Option Member}
    {fit : Bool} (holds : fit = true → present.all fits = true)
    (told : queue.foldl (foretell fits hub id) fit = true) :
    ((commandsOf id queue).foldl (stand hub id) present).all fits = true := by
  induction queue generalizing present fit with
  | nil => exact holds told
  | cons request rest ih =>
      rw [commandsOf_cons, List.foldl_append]
      refine ih ?_ told
      unfold foretell
      by_cases own : request.sender = id
      · rw [if_pos own, if_pos own]
        cases request.command with
        | disconnect => exact fun _ => rfl
        | post | direct | listUsers => exact holds
        | connect user room =>
            intro both
            obtain ⟨before, new⟩ := Bool.and_eq_true_iff.mp both
            have fine := holds before
            cases present with
            | none => exact new
            | some member => exact fine
      · rw [if_neg own, if_neg own]
        exact holds

/-- What is foretold of a client is true of how it will stand. -/
theorem Foretold.standing {fits : Member → Bool} {queue : List Request}
    (foretold : Foretold fits hub queue id) :
    (standing hub id (commandsOf id queue)).all fits = true :=
  foldl_stand_fits (fun holds => holds) foretold

-- Only the requests of a client itself bear on what is foretold of it.
theorem foretold_iff_own {fits : Member → Bool} {queue : List Request} :
    Foretold fits hub queue id ↔
      Foretold fits hub ((commandsOf id queue).map fun command => ⟨id, command⟩) id := by
  have same (fit : Bool) : queue.foldl (foretell fits hub id) fit =
      ((commandsOf id queue).map fun command => (⟨id, command⟩ : Request)).foldl
        (foretell fits hub id) fit := by
    induction queue generalizing fit with
    | nil => rfl
    | cons request rest ih =>
        rw [List.foldl_cons, ih, commandsOf_cons]
        by_cases own : request.sender = id
        · obtain ⟨sender, command⟩ := request
          cases own
          simp
        · simp [own, foretell]
  unfold Foretold
  rw [same]

theorem stand_id {present : Option Member} {command : Command} {member : Member}
    (before : ∀ member, present = some member → member.id = id)
    (stands : stand hub id present command = some member) : member.id = id := by
  cases command with
  | connect user room =>
      cases present with
      | none =>
          cases stands
          rfl
      | some other => exact before member stands
  | disconnect => cases stands
  | post | direct | listUsers => exact before member stands

theorem foldl_stand_id {present : Option Member} {commands : List Command} {member : Member}
    (before : ∀ member, present = some member → member.id = id)
    (stands : commands.foldl (stand hub id) present = some member) : member.id = id := by
  induction commands generalizing present with
  | nil => exact before member stands
  | cons command rest ih => exact ih (fun _ => stand_id before) stands

theorem standing_id {commands : List Command} {member : Member}
    (stands : standing hub id commands = some member) : member.id = id :=
  foldl_stand_id (fun _ => Hub.id_of_member?) stands

def Member.resembles (member other : Member) : Bool :=
  other.handle = member.handle && other.name = member.name && other.room = member.room

theorem Member.eq_of_resembles {member other : Member} (alike : member.resembles other = true)
    (same : other.id = member.id) : other = member := by
  obtain ⟨id, handle, name, room⟩ := member
  obtain ⟨id', handle', name', room'⟩ := other
  simp only [resembles, Bool.and_eq_true, decide_eq_true_eq] at alike
  cases same
  rw [alike.1.1, alike.1.2, alike.2]

/-- When these commands of a client are carried out it is registered as this member, if at all; and
so it is if it is heeded. -/
structure Owes (heeded : Prop) (member : Member) (hub : Hub) (commands : List Command) : Prop where
  told : Foretold member.resembles hub
    (commands.map fun command => ⟨member.id, command⟩) member.id
  stands : heeded → standing hub member.id commands = some member

theorem Owes.none_left {heeded : Prop} {member : Member} (owes : Owes heeded member hub []) :
    (∀ other, hub.member? member.id = some other → other = member) ∧
      (heeded → hub.member? member.id = some member) := by
  refine ⟨fun other found => ?_, owes.stands⟩
  have fits := owes.told.settled (by simp)
  rw [found] at fits
  exact Member.eq_of_resembles fits (Hub.id_of_member? found)

-- A request of the client itself is the first of those that are owed, and all others are foreign.
theorem Owes.apply {heeded : Prop} {member : Member} {request : Request} {rest : List Command}
    (sound : exchange.Sound) (opened : heeded → (exchange.mail.box member.id).isOpen = true)
    (owes : Owes heeded member exchange.hub
      ((if request.sender = member.id then [request.command] else []) ++ rest)) :
    Owes heeded member (exchange.apply visit now request).1.hub rest where
  told := by
    have told := owes.told
    have first : Foretold member.resembles exchange.hub
        (request :: rest.map fun command => ⟨member.id, command⟩) member.id := by
      obtain ⟨sender, command⟩ := request
      by_cases own : sender = member.id
      · rw [if_pos own] at told
        rw [own]
        exact told
      · rw [if_neg own] at told
        unfold Foretold at told ⊢
        rw [List.foldl_cons, foretell, if_neg own]
        exact told
    exact first.pop visit now
  stands heed := (Exchange.apply_standing sound (opened heed) request rest).trans
    (owes.stands heed)

namespace Server

open Terminal

variable {server next : Server} {label : Option (ClientId × Happening)}

/-- What a pass is for the requests of a client, as long as the hub goes on: more of them are
queued, or the hub carries out the oldest request that there is. -/
theorem Passes.for_client (passes : server.Passes label next) (orderly : server.Orderly)
    (armed : next.hub.signal = .armed) (id : ClientId) :
    (next.registry = server.registry ∧
      commandsOf id next.queued = commandsOf id server.queued ++ asked id server next) ∨
    asked id server next = [] ∧ ∃ visit now request,
      next.registry = (server.hub.state.exchange.apply visit now request).1.hub ∧
      commandsOf id server.queued =
        (if request.sender = id then [request.command] else []) ++ commandsOf id next.queued := by
  rcases passes.at_hub with ⟨registry, queued⟩ | ⟨sender, command, registry, queued⟩ |
    ⟨visit, now, loop, turned, rfl⟩
  · exact Or.inl ⟨registry, by rw [asked_of_queued queued, queued, List.append_nil]⟩
  · refine Or.inl ⟨registry, ?_⟩
    rw [asked_of_offer queued, queued, commandsOf_append, commandsOf_cons]
    exact congrArg _ (List.append_nil _)
  · have turns := Loop.turns_of_turn? turned
    have silent := (turn_unmoved turns id).asked
    cases turns with
    | start => exact Or.inl ⟨rfl, by rw [silent, List.append_nil]; rfl⟩
    | finish ended =>
        have before : server.hub.signal = .armed := armed
        exact absurd ended ((orderly.serving before).goes_on before)
    | handle request rest waiting =>
        refine Or.inr ⟨silent, visit, now, request, Service.handle_hub visit now _ request, ?_⟩
        have queued : server.queued = request :: rest := waiting
        rw [queued, commandsOf_cons]
        rfl

-- As long as the mailbox of a client is open, what it asks for decides how it will stand.
theorem Passes.standing (passes : server.Passes label next) (orderly : server.Orderly)
    (armed : next.hub.signal = .armed) (opened : (server.mail.box id).isOpen = true) :
    standing next.registry id (commandsOf id next.queued) =
      (asked id server next).foldl (stand server.registry id)
        (standing server.registry id (commandsOf id server.queued)) := by
  rcases passes.for_client orderly armed id with
    ⟨registry, queued⟩ | ⟨silent, visit, now, request, registry, queued⟩
  · rw [registry, queued, standing_append]
  · rw [silent, registry, queued]
    exact Exchange.apply_standing orderly.sound opened request _

theorem Passes.defaultRoom (passes : server.Passes label next) :
    next.registry.defaultRoom = server.registry.defaultRoom := by
  rcases passes.at_hub with ⟨registry, _⟩ | ⟨_, _, registry, _⟩ | ⟨visit, now, loop, turned, rfl⟩
  · rw [registry]
  · rw [registry]
  · rcases Loop.turn?_hub turned with ⟨hub, _⟩ | ⟨request, rest, _, _, hub⟩ | ⟨hub, _⟩
    · exact congrArg Hub.defaultRoom hub
    · exact (congrArg Hub.defaultRoom hub).trans (Exchange.apply_defaultRoom visit now _ request)
    · exact (congrArg Hub.defaultRoom hub).trans rfl

end Server

namespace Venue

open Server Terminal

variable {venue : Venue} {member : Member}

/-- Requests are carried out in their order, so no more of them can be left than there were and came
in addition. -/
theorem commands_length (id : ClientId) (deeds : List Deed) (orderly : venue.server.Orderly)
    (armed : (venue.play deeds).server.hub.signal = .armed) :
    (commandsOf id (venue.play deeds).server.queued).length ≤
      (commandsOf id venue.server.queued).length + (gather (asked id) venue deeds).length := by
  induction deeds generalizing venue with
  | nil => exact Nat.le_refl _
  | cons deed rest ih =>
      have later := ih (perform_orderly deed orderly) armed
      obtain ⟨label, passes, -⟩ := perform_shows venue deed
      have here : (commandsOf id (venue.perform deed).server.queued).length ≤
          (commandsOf id venue.server.queued).length + (asked id venue deed).length := by
        rcases passes.for_client orderly (play_armed rest armed) id with
          ⟨-, queued⟩ | ⟨-, visit, now, request, -, queued⟩
        · rw [queued, List.length_append]
          rfl
        · rw [queued, List.length_append]
          omega
      rw [gather, List.length_append]
      rw [play_cons]
      omega

-- What is carried out comes from those that are owed, or more would be carried out in the end.
theorem owed_in_turn {first more : List Command} {request : Request} (deeds : List Deed)
    (orderly : venue.server.Orderly) (armed : (venue.play deeds).server.hub.signal = .armed)
    (parted : first ++ more = (if request.sender = id then [request.command] else []) ++
      commandsOf id venue.server.queued)
    (left : commandsOf id (venue.play deeds).server.queued =
      more ++ gather (asked id) venue deeds) :
    ∃ later, first = (if request.sender = id then [request.command] else []) ++ later ∧
      commandsOf id venue.server.queued = later ++ more := by
  by_cases own : request.sender = id
  · rw [if_pos own] at parted ⊢
    cases first with
    | cons command later =>
        obtain ⟨rfl, same⟩ := List.cons.inj parted
        exact ⟨later, rfl, same.symm⟩
    | nil =>
        have few := commands_length id deeds orderly armed
        have short := congrArg List.length parted
        rw [left] at few
        simp only [List.nil_append, List.length_append, List.length_cons, List.length_nil]
          at few short
        omega
  · rw [if_neg own] at parted ⊢
    exact ⟨first, rfl, parted.symm⟩

/-- When the hub has carried out the first of the queued requests of a client, and none of those
that came later, the client is registered as it was to be, if at all, and certainly if it is
heeded. -/
theorem registered_when_handled {heeded : Prop} {first more : List Command} (deeds : List Deed)
    (orderly : venue.server.Orderly)
    (armed : (venue.play deeds).server.hub.signal = .armed)
    (opened : ∀ early late, deeds = early ++ late → heeded →
      ((venue.play early).server.mail.box member.id).isOpen = true)
    (parted : commandsOf member.id venue.server.queued = first ++ more)
    (owes : Owes heeded member venue.server.registry first)
    (left : commandsOf member.id (venue.play deeds).server.queued =
      more ++ gather (asked member.id) venue deeds) :
    (∀ other, (venue.play deeds).server.registry.member? member.id = some other →
      other = member) ∧
      (heeded → (venue.play deeds).server.registry.member? member.id = some member) := by
  induction deeds generalizing venue first more with
  | nil =>
      have same := parted.symm.trans left
      rw [gather, List.append_nil] at same
      obtain rfl : first = [] := by simpa using same
      exact owes.none_left
  | cons deed rest ih =>
      obtain ⟨label, passes, -⟩ := perform_shows venue deed
      have after_armed := play_armed rest armed
      have orderly_after := perform_orderly deed orderly
      have opened_after : ∀ early late, rest = early ++ late → heeded →
          (((venue.perform deed).play early).server.mail.box member.id).isOpen = true :=
        fun early late same => opened (deed :: early) late (congrArg (deed :: ·) same)
      rw [gather, ← List.append_assoc] at left
      rcases passes.for_client orderly after_armed member.id with
        ⟨registry, queued⟩ | ⟨silent, visit, now, request, registry, queued⟩
      · have parted_after : commandsOf member.id (venue.perform deed).server.queued =
            first ++ (more ++ asked member.id venue deed) := by
          rw [queued, parted, List.append_assoc]
          rfl
        exact ih orderly_after armed opened_after parted_after (registry ▸ owes) left
      · have asks : asked member.id venue deed = [] := silent
        rw [asks, List.append_nil] at left
        obtain ⟨later, rfl, parted_after⟩ := owed_in_turn rest orderly_after armed
          (parted.symm.trans queued) left
        have paid : Owes heeded member
            (venue.server.hub.state.exchange.apply visit now request).1.hub later :=
          owes.apply orderly.sound (opened [] _ rfl)
        exact ih orderly_after armed opened_after parted_after (registry ▸ paid) left

end Venue
end ChatRooms
