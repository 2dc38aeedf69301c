import ChatRooms.Proofs.Server.Order

/-! A server is kept in order by every deed: each way in which it passes on keeps what holds between
deeds, and so does a run of them. -/
namespace ChatRooms

namespace Loop

variable {visit : Visit} {now : Timestamp} {loop next : Loop Service Request}

inductive Turns (visit : Visit) (now : Timestamp) (loop : Loop Service Request) :
    Loop Service Request → Prop where
  | start : Turns visit now loop { loop with phase := .running }
  | handle (request : Request) (rest : List Request)
      (queued : loop.channel.box.queue = request :: rest) :
      Turns visit now loop { loop with
        state := loop.state.handle visit now request
        channel := { loop.channel with box := { loop.channel.box with queue := rest } } }
  | finish (ended : loop.signal = .raised ∨ loop.channel.addresses = 0) :
      Turns visit now loop (loop.finish (Service.actor visit now))

theorem turns_of_turn? (turned : loop.turn? (Service.actor visit now) = some next) :
    loop.Turns visit now next := by
  cases advances_of_turn? turned with
  | start => exact .start
  | handle request rest _ _ queued => exact .handle request rest queued
  | finish _ ended => exact .finish (ended.imp_right And.left)

theorem Serving.goes_on (serving : loop.Serving) (armed : loop.signal = .armed) :
    ¬(loop.signal = .raised ∨ loop.channel.addresses = 0) := by
  rintro (raised | alone)
  · rw [armed] at raised
    contradiction
  · exact absurd alone (Nat.pos_iff_ne_zero.mp serving.addressed)

theorem Turns.awake_of_serving (turns : loop.Turns visit now next) (armed : next.signal = .armed)
    (serving : loop.signal = .armed → loop.Serving) : next.Serving := by
  cases turns with
  | start =>
      have before := serving armed
      exact ⟨Or.inr rfl, before.opened, before.roomy, before.addressed⟩
  | handle request rest queued =>
      have before := serving armed
      exact ⟨before.awake, before.opened, before.roomy, before.addressed⟩
  -- A hub that nobody told to stop keeps its own address.
  | finish ended =>
      have before : loop.signal = .armed := armed
      exact absurd ended ((serving before).goes_on before)

end Loop

namespace Service

theorem discard_addresses (visit : Visit) (now : Timestamp) (service : Service)
    (requests : List Request) (id : ClientId) :
    (requests.foldl (actor visit now).discard service).exchange.mail.addresses id =
      service.exchange.mail.addresses id - requests.countP (·.sender = id) := by
  induction requests generalizing service with
  | nil => rfl
  | cons request rest ih =>
      rw [List.foldl_cons, ih, List.countP_cons]
      have released : ((actor visit now).discard service request).exchange.mail.addresses id =
          service.exchange.mail.addresses id - if id = request.sender then 1 else 0 :=
        Mailroom.addresses_release _ _ _
      rw [released]
      by_cases same : request.sender = id
      · simp [same]
        omega
      · simp [same, Ne.symm same]

end Service

theorem Exchange.apply_registered {exchange : Exchange} {visit : Visit} {now : Timestamp}
    {request : Request} {id : ClientId}
    (registered : (exchange.apply visit now request).1.hub.isRegistered id = true) :
    exchange.hub.isRegistered id = true ∨ request.sender = id := by
  rw [Hub.isRegistered_eq_isSome, apply_member?] at registered
  split at registered
  · contradiction
  · split at registered
    · contradiction
    · rw [Option.isSome_or, Bool.or_eq_true] at registered
      rcases registered with before | entered
      · exact Or.inl (by rw [Hub.isRegistered_eq_isSome]; exact before)
      · right
        cases entering : entrant? exchange.hub request with
        | none => simp [entering] at entered
        | some member =>
            obtain ⟨_, _, _, _, rfl⟩ := entrant?_eq_some entering
            by_cases same : request.sender = id
            · exact same
            · simp [entering, Option.filter, same] at entered

namespace Server

open Terminal

variable {server after : Server} {id : ClientId} {seat : Seat} {console next : Console}

theorem Orderly.stop (orderly : server.Orderly) :
    Orderly { server with hub := server.hub.raiseStop } :=
  ⟨orderly.once, orderly.given, orderly.sound, orderly.accounted, orderly.unknown,
    orderly.settled, fun armed => by contradiction⟩

theorem Orderly.accounted_of_handle (orderly : server.Orderly) (visit : Visit) (now : Timestamp)
    {request : Request} {rest : List Request} (waiting : server.queued = request :: rest) :
    (server.hub.state.handle visit now request).exchange.Accounted fun id =>
      (if server.holds id then 1 else 0) + rest.countP (·.sender = id) := by
  have applied := orderly.accounted.apply visit now request
  rw [Service.handle_exchange]
  refine ⟨⟨applied.keyed.distinct, applied.keyed.own⟩, fun id => ?_⟩
  simp only [Mailroom.addresses_release, applied.count, abroad, waiting, List.countP_cons]
  by_cases same : request.sender = id
  · simp only [same, decide_true, ↓reduceIte]
    omega
  · simp only [same, Ne.symm same, decide_false, Bool.false_eq_true, ↓reduceIte]
    omega

-- The registrations are gone, and so are the addresses of the requests that were discarded.
theorem Orderly.accounted_of_finish (orderly : server.Orderly) (visit : Visit)
    (now : Timestamp) :
    (server.hub.finish (Service.actor visit now)).state.exchange.Accounted fun id =>
      if server.holds id then 1 else 0 := by
  have hub := Service.discard_hub visit now
    ((Service.actor visit now).stop server.hub.state) server.queued
  refine ⟨Hub.keyed_of_nobody (congrArg Hub.members hub), fun id => ?_⟩
  have reset := orderly.accounted.reset.count id
  have discarded := Service.discard_addresses visit now
    ((Service.actor visit now).stop server.hub.state) server.queued id
  have unregistered : Hub.isRegistered
      (server.hub.finish (Service.actor visit now)).state.exchange.hub id = false :=
    congrArg (Hub.isRegistered · id) hub
  have empty : server.hub.state.exchange.reset.hub.isRegistered id = false := rfl
  rw [unregistered]
  refine discarded.trans ?_
  change server.hub.state.exchange.reset.mail.addresses id - _ = _
  rw [reset, empty]
  simp [abroad]

/-- A turn of the hub gives back the addresses that its requests had brought along. -/
theorem Orderly.turn {visit : Visit} {now : Timestamp} {loop : Loop Service Request}
    (orderly : server.Orderly) (turns : server.hub.Turns visit now loop) :
    Orderly { server with hub := loop } := by
  have serving := fun armed => turns.awake_of_serving armed orderly.serving
  cases turns with
  | start =>
      exact ⟨orderly.once, orderly.given, orderly.sound, orderly.accounted, orderly.unknown,
        orderly.settled, serving⟩
  | handle request rest queued =>
      have waiting : server.queued = request :: rest := queued
      have handled := Service.handle_exchange visit now server.hub.state request
      refine ⟨orderly.once, orderly.given, ?_, ?_, ?_, orderly.settled, serving⟩
      · have sound := Exchange.apply_sound visit now request orderly.sound
        simp only [handled]
        exact ⟨sound.keyed, sound.swept, sound.filed⟩
      · exact orderly.accounted_of_handle visit now waiting
      · intro id fresh
        obtain ⟨stranger, silent⟩ := orderly.unknown id fresh
        rw [waiting] at silent
        refine ⟨?_, fun other listed => silent other (List.mem_cons_of_mem _ listed)⟩
        apply Bool.eq_false_iff.mpr
        intro registered
        simp only [registry, handled] at registered
        rcases Exchange.apply_registered registered with before | sender
        · exact absurd before (Bool.eq_false_iff.mp stranger)
        · exact silent request List.mem_cons_self sender
  | finish ended =>
      have hub := Service.discard_hub visit now
        ((Service.actor visit now).stop server.hub.state) server.queued
      refine ⟨orderly.once, orderly.given, ?_, ?_, ?_, orderly.settled, serving⟩
      · have sound := Exchange.step_sound .reset orderly.sound
        refine ⟨?_, ?_, ?_⟩
        · exact hub ▸ sound.keyed
        · exact hub ▸ sound.swept
        · exact hub ▸ sound.filed
      · exact orderly.accounted_of_finish visit now
      · intro id _
        exact ⟨congrArg (Hub.isRegistered · id) hub, fun request listed => by contradiction⟩

theorem offer_accepted {accepted : Server} {sender : ClientId} {command : Command}
    (taken : server.offer sender command = .ok accepted) :
    accepted = { server with hub := { server.hub with
      state := server.hub.state.share sender
      channel := { server.hub.channel with box := { server.hub.channel.box with
        queue := server.queued ++ [⟨sender, command⟩] } } } } := by
  unfold offer at taken
  rcases server.hub.offer_cases ⟨sender, command⟩ with ⟨-, closed⟩ | ⟨-, -, room⟩ | ⟨-, -, full⟩
  · rw [closed] at taken
    contradiction
  · rw [room] at taken
    cases taken
    rfl
  · rw [full] at taken
    contradiction

-- A request brings a copy of its sender's address along.
theorem Orderly.offered {accepted : Server} {sender : ClientId} {command : Command}
    (orderly : server.Orderly) (known : sender.number < server.nextId)
    (taken : server.offer sender command = .ok accepted) : accepted.Orderly := by
  rw [offer_accepted taken]
  refine ⟨orderly.once, orderly.given, ⟨orderly.sound.keyed, orderly.sound.swept,
    orderly.sound.filed⟩, ?_, ?_, orderly.settled, ?_⟩
  · refine ⟨⟨orderly.sound.keyed.distinct, orderly.sound.keyed.own⟩, fun id => ?_⟩
    have before := orderly.accounted.count id
    have shared : (server.hub.state.share sender).exchange.mail.addresses id = _ :=
      Mailroom.addresses_share server.hub.state.exchange.mail sender id
    rw [shared, before]
    let more : List Request := server.queued ++ [⟨sender, command⟩]
    change _ = ((if server.holds id then 1 else 0) + more.countP (·.sender = id)) +
      if server.hub.state.exchange.hub.isRegistered id then 1 else 0
    simp only [abroad, more, List.countP_append, List.countP_cons, List.countP_nil]
    by_cases same : sender = id
    · simp only [same, decide_true, ↓reduceIte]
      omega
    · simp only [same, Ne.symm same, decide_false, Bool.false_eq_true, ↓reduceIte]
      omega
  · intro id fresh
    obtain ⟨stranger, silent⟩ := orderly.unknown id fresh
    refine ⟨stranger, ?_⟩
    intro request listed
    rcases List.mem_append.mp listed with earlier | new
    · exact silent request earlier
    · rw [List.mem_singleton.mp new]
      rintro rfl
      exact absurd known (Nat.not_lt_of_le fresh)
  · intro armed
    have before := orderly.serving armed
    exact ⟨before.awake, before.opened, before.roomy, before.addressed⟩

theorem fresh_id (orderly : server.Orderly) : (⟨server.nextId⟩ : ClientId) ∉ server.sessionIds :=
  fun listed => Nat.lt_irrefl _ (orderly.given _ listed)

-- A session that is new has a mailbox with one address, which goes to whoever opened it.
theorem Orderly.newcomer {user room : String} {session : Session} {opened : Server}
    (orderly : server.Orderly)
    (created : server.newSession? user room = some (session, opened))
    (hub : after.hub = opened.hub) (nextId : after.nextId = opened.nextId)
    (ids : after.sessionIds.Perm (session.id :: server.sessionIds))
    (mine : after.holds session.id = true)
    (others : ∀ id, id ≠ session.id → after.holds id = server.holds id)
    (settled : ∀ console ∈ after.consoles, console.Settled) : after.Orderly := by
  obtain ⟨mail, made, same⟩ := Option.map_eq_some_iff.mp created
  cases same
  obtain ⟨channel, fresh, rfl⟩ := Option.map_eq_some_iff.mp made
  obtain ⟨box, _, rfl⟩ := Option.map_eq_some_iff.mp fresh
  have registry : after.hub.state.exchange.hub = server.hub.state.exchange.hub := by rw [hub]; rfl
  have queued : after.queued = server.queued := by rw [queued, hub]; rfl
  have unknown := orderly.unknown ⟨server.nextId⟩ (Nat.le_refl _)
  refine ⟨?_, ?_, ?_, ?_, ?_, settled, ?_⟩
  · rw [ids.nodup_iff, List.nodup_cons]
    exact ⟨fresh_id orderly, orderly.once⟩
  · intro id listed
    rw [nextId]
    rcases List.mem_cons.mp (ids.mem_iff.mp listed) with rfl | before
    · exact Nat.lt_succ_self _
    · exact Nat.lt_succ_of_lt (orderly.given id before)
  · exact ⟨registry ▸ orderly.sound.keyed, registry ▸ orderly.sound.swept,
      registry ▸ orderly.sound.filed⟩
  · refine ⟨registry ▸ orderly.sound.keyed, fun id => ?_⟩
    rw [registry, abroad, queued, hub]
    by_cases new : id = ⟨server.nextId⟩
    · subst new
      have silent : server.queued.countP (fun request => request.sender = ⟨server.nextId⟩) = 0 :=
        List.countP_eq_zero.mpr fun request listed => by simpa using unknown.2 request listed
      have stranger : server.hub.state.exchange.hub.isRegistered ⟨server.nextId⟩ = false :=
        unknown.1
      simp [mine, silent, stranger, setMail, Mailroom.addresses]
    · rw [others id new]
      have before := orderly.accounted.count id
      simp only [setMail, Mailroom.addresses, Mailroom.channel_setChannel_ne _ _ new] at before ⊢
      exact before
  · intro id later
    rw [nextId] at later
    obtain ⟨stranger, silent⟩ := orderly.unknown id (Nat.le_of_succ_le later)
    exact ⟨(congrArg (Hub.isRegistered · id) registry).trans stranger, queued ▸ silent⟩
  · rw [hub]
    intro armed
    have before := orderly.serving armed
    exact ⟨before.awake, before.opened, before.roomy, before.addressed⟩

theorem seat?_append (server : Server) (seat : Seat) (id : ClientId) :
    ({ server with seats := server.seats ++ [seat] } : Server).seat? id =
      (server.seat? id).or (if seat.session.id = id then some seat else none) := by
  simp only [seat?, List.find?_append, List.find?_singleton, decide_eq_true_eq]

theorem console?_append (server : Server) (console : Console) (id : ClientId) :
    ({ server with consoles := server.consoles ++ [console] } : Server).console? id =
      (server.console? id).or (if console.session.id = id then some console else none) := by
  simp only [console?, List.find?_append, List.find?_singleton, decide_eq_true_eq]

theorem unseated (fresh : id ∉ server.sessionIds) :
    server.seat? id = none ∧ server.console? id = none := by
  constructor
  · apply List.find?_eq_none.mpr
    intro seat listed same
    refine fresh (List.mem_append_left _ (List.mem_map.mpr ⟨seat, listed, ?_⟩))
    simpa using same
  · apply List.find?_eq_none.mpr
    intro console listed same
    refine fresh (List.mem_append_right _ (List.mem_map.mpr ⟨console, listed, ?_⟩))
    simpa using same

theorem Orderly.openSeat {user room : String} {session : Session} {opened : Server}
    (orderly : server.Orderly)
    (created : server.newSession? user room = some (session, opened)) :
    Orderly { opened with seats := opened.seats ++ [⟨session, true, true⟩] } := by
  obtain ⟨fresh, _, _, _, seats, consoles⟩ := newSession?_some created
  obtain ⟨no_seat, no_console⟩ := unseated (fresh ▸ fresh_id orderly)
  have found := newSession?_found created
  refine orderly.newcomer created rfl rfl ?_ ?_ ?_ ?_
  · simp only [sessionIds, seats, consoles, List.map_append, List.map_cons, List.map_nil,
      List.append_assoc, List.singleton_append]
    exact List.perm_middle
  · simp [holds, seat?_append, found, no_seat]
  · intro id apart
    rw [holds, seat?_append, if_neg (Ne.symm apart), (found id).1, Option.or_none]
    exact congrArg (_ || Option.any _ ·) (found id).2
  · exact fun console listed => orderly.settled console (consoles ▸ listed)

theorem Orderly.openConsole {user room : String} {mode : Mode} {sink : Sink}
    {now : Timestamp} {session : Session} {opened : Server} (orderly : server.Orderly)
    (created : server.newSession? user room = some (session, opened)) :
    Orderly { opened with
      consoles := opened.consoles ++ [Console.create session mode sink now] } := by
  obtain ⟨fresh, _, _, _, seats, consoles⟩ := newSession?_some created
  obtain ⟨no_seat, no_console⟩ := unseated (fresh ▸ fresh_id orderly)
  have found := newSession?_found created
  refine orderly.newcomer created rfl rfl ?_ ?_ ?_ ?_
  · simp only [sessionIds, seats, consoles, List.map_append, List.map_cons, List.map_nil]
    rw [← List.append_assoc]
    exact List.perm_append_singleton _ _
  · simp [holds, console?_append, found, no_console, Console.create, Console.hasEnded]
  · intro id apart
    rw [holds, console?_append, if_neg (by simpa [Console.create] using Ne.symm apart),
      (found id).2, Option.or_none]
    exact congrArg (Option.any _ · || _) (found id).1
  · intro console listed
    rcases List.mem_append.mp listed with before | new
    · exact orderly.settled console (consoles ▸ before)
    · rw [List.mem_singleton.mp new]
      exact Console.settled_of_running rfl

theorem Orderly.enter (orderly : server.Orderly) (found : server.seat? id = some seat)
    (room : String) :
    Orderly (server.setSeat { seat with session := seat.session.enter room }) := by
  have self := (seat_listed found).1
  refine orderly.aside rfl rfl rfl (List.Perm.of_eq (sessionIds_setSeat _ _)) ?_ orderly.settled
  intro other
  rw [holds_setSeat orderly found { seat with session := seat.session.enter room } self]
  by_cases here : id = other
  · subst here
    rw [if_pos rfl, orderly.holds_of_seat found]
    rfl
  · rw [if_neg here]
    rfl

theorem Orderly.received (orderly : server.Orderly) (id : ClientId) :
    Orderly (server.setMail (server.mail.receive id).2) := by
  refine orderly.aside rfl rfl rfl (List.Perm.refl _) ?_ orderly.settled
  intro other
  exact congrArg (· + _) (Mailroom.addresses_receive _ _ _)

theorem Orderly.dropHandle (orderly : server.Orderly) (found : server.seat? id = some seat)
    (held : seat.hasHandle = true) : Orderly
      ((server.setSeat { seat with hasHandle := false }).setMail (server.mail.release id)) := by
  have self := (seat_listed found).1
  refine orderly.aside rfl rfl rfl (List.Perm.of_eq (sessionIds_setSeat _ _)) ?_ orderly.settled
  intro other
  have after := holds_setSeat orderly found { seat with hasHandle := false } self other
  change (server.mail.release id).addresses other + _ = _ +
    if (server.setSeat { seat with hasHandle := false }).holds other then 1 else 0
  rw [after, Mailroom.addresses_release]
  by_cases here : id = other
  · subst here
    have mine : server.holds id = true := (orderly.holds_of_seat found).trans held
    have some_left := orderly.addresses_pos mine
    simp only [mine, ↓reduceIte, Bool.false_eq_true]
    omega
  · simp [here, Ne.symm here]

theorem Orderly.dropInbox (orderly : server.Orderly) (found : server.seat? id = some seat) :
    Orderly
      ((server.setSeat { seat with hasInbox := false }).setMail (server.mail.close id)) := by
  have self := (seat_listed found).1
  refine orderly.aside rfl rfl rfl (List.Perm.of_eq (sessionIds_setSeat _ _)) ?_ orderly.settled
  intro other
  have after := holds_setSeat orderly found { seat with hasInbox := false } self other
  change (server.mail.close id).addresses other + _ = _ +
    if (server.setSeat { seat with hasInbox := false }).holds other then 1 else 0
  rw [after, Mailroom.addresses_close]
  by_cases here : id = other
  · subst here
    rw [if_pos rfl, orderly.holds_of_seat found]
  · rw [if_neg here]

theorem seats_without (orderly : server.Orderly) (found : server.seat? id = some seat) :
    (server.seats.map (·.session.id)).Perm
      (id :: (server.seats.filter (·.session.id ≠ id)).map (·.session.id)) := by
  obtain ⟨self, listed⟩ := seat_listed found
  have present : id ∈ server.seats.map (·.session.id) :=
    List.mem_map.mpr ⟨seat, listed, self⟩
  have once : (server.seats.map (·.session.id)).Nodup := (List.nodup_append.mp orderly.once).1
  have parted := List.perm_cons_erase present
  rw [once.erase_eq_filter, List.filter_map] at parted
  refine parted.trans (List.Perm.of_eq ?_)
  congr 2
  apply List.filter_congr
  intro other _
  by_cases same : other.session.id = id <;> simp [same]

theorem seat?_without (server : Server) (id other : ClientId) :
    ({ server with seats := server.seats.filter (·.session.id ≠ id) } : Server).seat? other =
      if id = other then none else server.seat? other := by
  simp only [seat?, List.find?_filter]
  by_cases here : id = other
  · subst here
    simp
  · rw [if_neg here]
    congr 1
    funext seat
    by_cases same : seat.session.id = other
    · simp [same, Ne.symm here]
    · simp [same]

-- The session goes from its caller to the console, and its handle with it.
theorem Orderly.attend {mode : Mode} {sink : Sink} {now : Timestamp}
    (orderly : server.Orderly) (found : server.seat? id = some seat)
    (held : seat.hasHandle = true) : Orderly { server with
      seats := server.seats.filter (·.session.id ≠ id)
      consoles := server.consoles ++ [Console.create seat.session mode sink now] } := by
  have self := (seat_listed found).1
  refine orderly.aside rfl rfl rfl ?_ ?_ ?_
  · simp only [sessionIds, List.map_append, List.map_cons, List.map_nil, Console.create, self]
    have parted := seats_without orderly found
    refine List.Perm.trans ?_ (parted.append_right _).symm
    rw [← List.append_assoc]
    exact List.perm_append_singleton _ _
  · intro other
    have seats : ({ server with
        seats := server.seats.filter (·.session.id ≠ id)
        consoles := server.consoles ++ [Console.create seat.session mode sink now] } :
          Server).seat? other = if id = other then none else server.seat? other :=
      seat?_without server id other
    have consoles := console?_append
      { server with seats := server.seats.filter (·.session.id ≠ id) }
      (Console.create seat.session mode sink now) other
    have before : ({ server with
        seats := server.seats.filter (·.session.id ≠ id) } : Server).console? other =
          server.console? other := rfl
    have fresh : (Console.create seat.session mode sink now).session.id = id := self
    simp only [holds, seats, consoles, before, fresh]
    by_cases here : id = other
    · subst here
      simp [found, held, orderly.no_console found, Console.create, Console.hasEnded]
      rfl
    · simp only [if_neg here, Option.or_none]
      rfl
  · intro console listed
    rcases List.mem_append.mp listed with before | new
    · exact orderly.settled console before
    · rw [List.mem_singleton.mp new]
      exact Console.settled_of_running rfl

theorem setConsole_settled (orderly : server.Orderly) {changed : Console}
    (settled : changed.Settled) :
    ∀ console ∈ (server.setConsole changed).consoles, console.Settled := by
  intro console listed
  rcases of_mem_replace (fun console : Console => console.session.id) listed with rfl | ⟨_, before⟩
  · exact settled
  · exact orderly.settled console before

theorem Orderly.replace (orderly : server.Orderly) (found : server.console? id = some console)
    (same : next.session.id = id) (settled : next.Settled)
    (ended : next.hasEnded = console.hasEnded) : (server.setConsole next).Orderly := by
  refine orderly.aside rfl rfl rfl (List.Perm.of_eq (sessionIds_setConsole _ _)) ?_
    (setConsole_settled orderly settled)
  intro other
  rw [holds_setConsole orderly found same]
  by_cases here : id = other
  · subst here
    rw [if_pos rfl, orderly.holds_of_console found, ended]
    rfl
  · rw [if_neg here]
    rfl

-- A console that ends lets go of its session.
theorem Orderly.advance (orderly : server.Orderly) (found : server.console? id = some console)
    (running : console.outcome = none) (same : next.session.id = id) (settled : next.Settled) :
    (server.advanceConsole next).Orderly := by
  unfold advanceConsole
  split
  · rename_i ended
    dsimp only
    rw [same, letGo]
    refine orderly.aside rfl rfl rfl (List.Perm.of_eq (sessionIds_setConsole server next)) ?_
      (setConsole_settled orderly settled)
    intro other
    have after := holds_setConsole orderly found same other
    change ((server.mail.release id).close id).addresses other + _ = _ +
      if (server.setConsole next).holds other then 1 else 0
    rw [after, Mailroom.addresses_close, Mailroom.addresses_release, ended]
    by_cases here : id = other
    · subst here
      have mine : server.holds id = true := by
        simp [orderly.holds_of_console found, Console.hasEnded, running]
      have some_left := orderly.addresses_pos mine
      simp only [mine, ↓reduceIte, Bool.not_true, Bool.false_eq_true]
      omega
    · simp [here, Ne.symm here]
  · rename_i goes_on
    apply orderly.replace found same settled
    simp [Console.hasEnded, running] at goes_on ⊢
    exact goes_on

theorem Orderly.supplied {supply : Supply} (orderly : server.Orderly)
    (found : server.console? id = some console) (goes : console.Goes (.supplied supply) next) :
    (server.setConsole next).Orderly := by
  obtain ⟨self, listed⟩ := console_listed found
  have settled := goes.settled (orderly.settled console listed)
  have ended : next.hasEnded = console.hasEnded := by cases goes <;> rfl
  exact orderly.replace found (goes.session_id.trans self) settled ended

theorem Orderly.afforded {happening : Happening} {middle : Server} (orderly : server.Orderly)
    (found : server.console? id = some console)
    (affords : server.Affords id happening middle) :
    middle.Orderly ∧ middle.console? id = some console := by
  cases happening with
  | supplied supply => contradiction
  | sent command =>
      have same : middle.consoles = server.consoles := (offer_ok affords).2.2.2.2
      refine ⟨orderly.offered (orderly.console_known found) affords, ?_⟩
      rw [console?, same]
      exact found
  | refused =>
      obtain ⟨_, rfl⟩ := affords
      exact ⟨orderly, found⟩
  | worked | read =>
      cases affords
      exact ⟨orderly, found⟩
  | took event =>
      obtain ⟨mail, received, rfl⟩ := affords
      have kept := orderly.received id
      rw [received] at kept
      exact ⟨kept, found⟩

theorem supply?_of_affords {happening : Happening} {middle : Server}
    (affords : server.Affords id happening middle) : happening.supply? = none := by
  cases happening with
  | supplied supply => contradiction
  | sent | refused | worked | read | took => rfl

/-- Every way in which a server passes on keeps it in order. -/
theorem Passes.orderly {label : Option (ClientId × Happening)} (passes : server.Passes label after)
    (orderly : server.Orderly) : after.Orderly := by
  cases passes with
  | stays => exact orderly
  | stop => exact orderly.stop
  | hub visit now _ turned =>
      obtain ⟨loop, loop_turned, rfl⟩ := Option.map_eq_some_iff.mp turned
      exact orderly.turn (Loop.turns_of_turn? loop_turned)
  | openSeat user room session opened created => exact orderly.openSeat created
  | openConsole user room mode sink now session opened created =>
      exact orderly.openConsole created
  | enter id seat room found => exact orderly.enter found room
  | offer id seat command _ found _ taken => exact orderly.offered (orderly.seat_known found) taken
  | poll id => exact orderly.received id
  | dropHandle id seat found held => exact orderly.dropHandle found held
  | dropInbox id seat found => exact orderly.dropInbox found
  | attend id seat mode sink now found held => exact orderly.attend found held
  | supply id console next supply found goes => exact orderly.supplied found goes
  | console id console next happening middle found goes affords =>
      obtain ⟨self, listed⟩ := console_listed found
      have settled := orderly.settled console listed
      obtain ⟨kept, still⟩ := orderly.afforded found affords
      exact kept.advance still (goes.running settled (supply?_of_affords affords))
        (goes.session_id.trans self) (goes.settled settled)
  | desert id console mail found ready alone =>
      exact orderly.advance found (Console.isReady_iff.mp ready).1 (console_listed found).1
        fun _ => rfl

theorem start_orderly {config : Config} (started : start? config = some server) :
    server.Orderly := by
  obtain ⟨roomy, rfl⟩ := start?_some started
  refine ⟨List.nodup_nil, ?_, Exchange.create_sound config,
    ⟨Hub.keyed_of_nobody rfl, fun _ => rfl⟩, ?_, ?_, fun _ => ?_⟩
  · intro id listed
    contradiction
  · intro id _
    refine ⟨rfl, ?_⟩
    intro request listed
    contradiction
  · intro console listed
    contradiction
  · exact ⟨Or.inl rfl, rfl, roomy, Nat.one_pos⟩

end Server

namespace Venue

theorem perform_orderly {venue : Venue} (deed : Deed) (orderly : venue.server.Orderly) :
    (venue.perform deed).server.Orderly := by
  obtain ⟨label, passes, _⟩ := perform_shows venue deed
  exact passes.orderly orderly

theorem play_orderly {venue : Venue} (deeds : List Deed) (orderly : venue.server.Orderly) :
    (venue.play deeds).server.Orderly := by
  induction deeds generalizing venue with
  | nil => exact orderly
  | cons deed rest ih => exact ih (perform_orderly deed orderly)

theorem start_orderly {config : Config} {start : Venue} (started : start? config = some start) :
    start.server.Orderly := by
  obtain ⟨server, opened, rfl⟩ := Option.map_eq_some_iff.mp started
  exact Server.start_orderly opened

end Venue
end ChatRooms
