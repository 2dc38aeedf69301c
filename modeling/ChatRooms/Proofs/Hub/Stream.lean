import ChatRooms.Proofs.Hub.Run
import ChatRooms.Proofs.Hub.Told
import Mathlib.Data.List.Induction

/-! The stream of a room. From joining to leaving, a client gets a sublist of the history of the
room followed by what others say there, and all of it as long as its mailbox is open and never full.
Every message carries the name under which its author is registered. -/
namespace ChatRooms.Exchange

def accepted? (exchange : Exchange) : Act → Option (ClientId × Broadcast)
  | .ask visit now request =>
      match (exchange.apply visit now request).2 with
      | .ok () => (said? now exchange.hub request).map (request.sender, ·)
      | .error _ => none
  | _ => none

def posted (listener : ClientId) (room : String) : Exchange → List Act → List Broadcast
  | _, [] => []
  | exchange, act :: rest =>
      (((exchange.accepted? act).toList.filter fun spoken =>
          spoken.2.room = room && spoken.1 ≠ listener).map (·.2)) ++
        posted listener room (exchange.step act) rest

theorem apply_of_said {visit : Visit} {now : Timestamp} {exchange : Exchange} {request : Request}
    {post : Broadcast} (spoken : said? now exchange.hub request = some post) :
    (exchange.apply visit now request).2 = .ok () := by
  obtain ⟨sender, command⟩ := request
  cases command with
  | post user content room =>
      simp only [said?, Option.map_eq_some_iff] at spoken
      obtain ⟨member, found, _⟩ := spoken
      simp [apply, execute, Exchange.post, found]
  | connect | disconnect | direct | listUsers => contradiction

theorem accepted?_ask (exchange : Exchange) (visit : Visit) (now : Timestamp)
    (request : Request) : exchange.accepted? (.ask visit now request) =
      (said? now exchange.hub request).map (request.sender, ·) := by
  simp only [accepted?]
  cases spoken : said? now exchange.hub request with
  | none => split <;> rfl
  | some post => rw [apply_of_said spoken]

theorem said?_eq_some {now : Timestamp} {hub : Hub} {request : Request} {post : Broadcast}
    (spoken : said? now hub request = some post) :
    ∃ claimed content room member, request.command = .post claimed content room ∧
      hub.member? request.sender = some member ∧
      post = ⟨member.name, content, if room.isEmpty then member.room else room, now⟩ := by
  unfold said? at spoken
  split at spoken
  · rename_i claimed content room asked
    obtain ⟨member, found, same⟩ := Option.map_eq_some_iff.mp spoken
    exact ⟨claimed, content, room, member, asked, found, same.symm⟩
  · contradiction

/-- A message is what an act of a run recorded in the history, said under the registered name of
its author. -/
def Recorded (config : Config) (acts : List Act) (post : Broadcast) : Prop :=
  ∃ past visit now sender claimed content room rest member,
    acts = past ++ .ask visit now ⟨sender, .post claimed content room⟩ :: rest ∧
    (reached config past).hub.member? sender = some member ∧
    ((reached config past).apply visit now ⟨sender, .post claimed content room⟩).2 = .ok () ∧
    post = ⟨member.name, content, if room.isEmpty then member.room else room, now⟩ ∧
    ((reached config past).step
      (.ask visit now ⟨sender, .post claimed content room⟩)).hub.history =
        (reached config past).hub.history.push post

theorem Recorded.append {config : Config} {acts : List Act} {post : Broadcast}
    (recorded : Recorded config acts post) (later : List Act) :
    Recorded config (acts ++ later) post := by
  obtain ⟨past, visit, now, sender, claimed, content, room, rest, member, split, facts⟩ := recorded
  exact ⟨past, visit, now, sender, claimed, content, room, rest ++ later, member,
    by simp [split], facts⟩

theorem recorded_of_said {config : Config} {past : List Act} {visit : Visit} {now : Timestamp}
    {request : Request} {post : Broadcast}
    (spoken : said? now (reached config past).hub request = some post) (rest : List Act) :
    Recorded config (past ++ .ask visit now request :: rest) post := by
  obtain ⟨claimed, content, room, member, asked, found, same⟩ := said?_eq_some spoken
  obtain ⟨sender, command⟩ := request
  cases asked
  refine ⟨past, visit, now, sender, claimed, content, room, rest, member, rfl, found,
    apply_of_said spoken, same, ?_⟩
  rw [step, apply_history, spoken]
  rfl

-- What the history keeps was recorded earlier in the run.
theorem recorded_of_recent {config : Config} {acts : List Act} {room : String}
    {post : Broadcast} (kept : post ∈ (reached config acts).hub.history.recent room) :
    Recorded config acts post := by
  -- On the last act: it said the message itself, or the history kept it from before.
  induction acts using List.reverseRecOn with
  | nil => contradiction
  | append_singleton past act ih =>
      rw [reached_append, run_cons, run_nil] at kept
      have earlier (unchanged : post ∈ (reached config past).hub.history.recent room) :
          Recorded config (past ++ [act]) post := (ih unchanged).append [act]
      cases act with
      | arrive newcomer capacity => exact earlier (by rwa [step, arrive_hub] at kept)
      | share | release | read | close => exact earlier kept
      | reset => contradiction
      | ask visit now request =>
          rw [step, apply_history] at kept
          cases spoken : said? now (reached config past).hub request with
          | none => exact earlier (by simpa [spoken] using kept)
          | some new =>
              rw [spoken] at kept
              rcases History.mem_recent_push kept with before | ⟨rfl, _⟩
              · exact earlier before
              · exact recorded_of_said spoken []

theorem recorded_of_posted {config : Config} {listener : ClientId} {room : String}
    {post : Broadcast} (past acts : List Act)
    (spoken : post ∈ posted listener room (reached config past) acts) :
    Recorded config (past ++ acts) post := by
  induction acts generalizing past with
  | nil => contradiction
  | cons act rest ih =>
      rcases List.mem_append.mp spoken with now_spoken | later
      · cases act with
        | ask visit now request =>
            rw [accepted?_ask] at now_spoken
            simp only [List.mem_map, List.mem_filter, Option.mem_toList, Option.map_eq_some_iff]
              at now_spoken
            obtain ⟨_, ⟨⟨new, said, rfl⟩, _⟩, rfl⟩ := now_spoken
            exact recorded_of_said said rest
        | arrive | share | release | read | close | reset => contradiction
      · have moved := ih (past ++ [act]) (by rwa [reached_append])
        simpa using moved

theorem arrivals_broadcasts {exchange : Exchange} {client : ClientId} {member : Member}
    (act : Act) (keyed : exchange.hub.Keyed)
    (found : exchange.hub.member? client = some member) :
    (broadcasts (arrivals client exchange act)).Sublist
        (((exchange.accepted? act).toList.filter fun spoken =>
          spoken.2.room = member.room && spoken.1 ≠ client).map (·.2)) ∧
      (Admits client exchange act → broadcasts (arrivals client exchange act) =
        ((exchange.accepted? act).toList.filter fun spoken =>
          spoken.2.room = member.room && spoken.1 ≠ client).map (·.2)) := by
  cases act with
  | ask visit now request =>
      have tried : broadcasts (addressed client (tries visit now exchange request)) =
          ((exchange.accepted? (.ask visit now request)).toList.filter fun spoken =>
            spoken.2.room = member.room && spoken.1 ≠ client).map (·.2) := by
        rw [tries, addressed_append, broadcasts_append,
          broadcasts_of_notices (fun _ told => farewells_are_notices told), List.append_nil,
          command_broadcasts visit now request keyed found, accepted?_ask]
        cases spoken : said? now exchange.hub request with
        | none => rfl
        | some post =>
            by_cases heard : (post.room = member.room && request.sender ≠ client) <;>
              simp_all
      rw [← tried, arrivals_ask]
      exact ⟨(Mailbox.taken_sublist _ _).filterMap _,
        fun admitted => by rw [Mailbox.taken_of_acceptsAll _ _ admitted]⟩
  | arrive | share | release | read | close | reset =>
      rw [arrivals_of_quiet client exchange _ (by simp)]
      exact ⟨List.nil_sublist _, fun _ => rfl⟩

theorem received_broadcasts {exchange : Exchange} {client : ClientId} {room : String}
    (acts : List Act) (sound : exchange.Sound) (stays : Stays client exchange acts)
    (home : ∀ member, exchange.hub.member? client = some member → member.room = room) :
    (broadcasts (received client exchange acts)).Sublist (posted client room exchange acts) ∧
      (AdmitsAll client exchange acts →
        broadcasts (received client exchange acts) = posted client room exchange acts) := by
  induction acts generalizing exchange with
  | nil => exact ⟨List.Sublist.refl _, fun _ => rfl⟩
  | cons act rest ih =>
      obtain ⟨registered, rest_stays⟩ := stays
      obtain ⟨member, found⟩ := Hub.member?_of_isRegistered registered
      -- Only the room at the start is given; that it stays the same comes with each act.
      have here := home member found
      subst here
      have first := arrivals_broadcasts act sound.keyed found
      have later := ih (step_sound act sound) rest_stays fun after still =>
        congrArg Member.room (step_member? act found still)
      simp only [received, posted, broadcasts_append]
      exact ⟨first.1.append later.1, fun admitted => by
        rw [first.2 admitted.1, later.2 admitted.2]⟩

theorem entrant?_of_accepted {visit : Visit} {now : Timestamp} {exchange : Exchange}
    {client : ClientId} {user room : String}
    (accepted : (exchange.apply visit now ⟨client, .connect user room⟩).2 = .ok ()) :
    entrant? exchange.hub ⟨client, .connect user room⟩ =
      some ⟨client, client, user, exchange.hub.roomOrDefault room⟩ := by
  cases registered : exchange.hub.isRegistered client with
  | true => simp [apply, execute, connect, registered] at accepted
  | false => simp [entrant?, registered]

-- A client that joins is told the whole history of its room.
theorem entrant_broadcasts {visit : Visit} {now : Timestamp} {exchange : Exchange}
    {client : ClientId} {user room : String} {member : Member}
    (entering : entrant? exchange.hub ⟨client, .connect user room⟩ = some member)
    (keyed : exchange.hub.Keyed) :
    broadcasts (addressed client (tries visit now exchange ⟨client, .connect user room⟩)) =
      exchange.hub.history.recent member.room := by
  obtain ⟨_, _, _, _, same⟩ := entrant?_eq_some entering
  have self : member.id = client := by rw [same]
  have now_keyed := entrant_keyed keyed entering
  rw [tries, addressed_append, broadcasts_append,
    broadcasts_of_notices (fun _ told => farewells_are_notices told), List.append_nil]
  simp only [commandTries, entering, addressed_append, addressed_to, self, ↓reduceIte,
    broadcasts_append, broadcasts_posts]
  rw [addressed_fanout _ _ _ (audience_nodup _ _ _ now_keyed)]
  simp [mem_audience now_keyed, broadcasts]

/-- From joining a room until leaving it, a client is told the history of the room and then what the
others say there, in order; it misses something only when its mailbox is closed or full. -/
theorem room_stream (config : Config) (earlier during : List Act) (visit : Visit)
    (now : Timestamp) (client : ClientId) (user room : String)
    (accepted : ((reached config earlier).apply visit now
      ⟨client, .connect user room⟩).2 = .ok ())
    (stays : Stays client
      ((reached config earlier).step (.ask visit now ⟨client, .connect user room⟩)) during) :
    let start := reached config earlier
    let joining := Act.ask visit now ⟨client, .connect user room⟩
    let home := start.hub.roomOrDefault room
    let heard := broadcasts (received client start (joining :: during))
    let stream := start.hub.history.recent home ++
      posted client home (start.step joining) during
    heard.Sublist stream ∧
      (AdmitsAll client start (joining :: during) → heard = stream) ∧
      ∀ post ∈ heard, Recorded config (earlier ++ joining :: during) post := by
  intro start joining home heard stream
  have sound := reached_sound config earlier
  have entering := entrant?_of_accepted accepted
  have replayed : broadcasts (addressed client (tries visit now start
      ⟨client, .connect user room⟩)) = start.hub.history.recent home :=
    entrant_broadcasts entering sound.keyed
  have settled : ∀ member, (start.step joining).hub.member? client = some member →
      member.room = home := by
    intro member found
    rw [entrant_member? entering found]
  have later := received_broadcasts during (step_sound joining sound) stays settled
  have split : heard = broadcasts (arrivals client start joining) ++
      broadcasts (received client (start.step joining) during) := broadcasts_append _ _
  have replay_first : (broadcasts (arrivals client start joining)).Sublist
      (start.hub.history.recent home) := by
    rw [arrivals_ask, ← replayed]
    exact (Mailbox.taken_sublist _ _).filterMap _
  have sublist : heard.Sublist stream := by
    rw [split]
    exact replay_first.append later.1
  refine ⟨sublist, ?_, ?_⟩
  · intro admitted
    rw [split, arrivals_ask, Mailbox.taken_of_acceptsAll _ _ admitted.1, replayed,
      later.2 admitted.2]
  · intro post listed
    rcases List.mem_append.mp (sublist.subset listed) with kept | spoken
    · exact (recorded_of_recent kept).append _
    · have found := recorded_of_posted (earlier ++ [joining]) during (by
        rw [reached_append]
        exact spoken)
      simpa using found

theorem room_stream_of_latecomer :
    let now : Timestamp := ⟨0, 0, by decide, by decide, by decide⟩
    let bob : ClientId := ⟨1⟩
    let carol : ClientId := ⟨2⟩
    let earlier : List Act :=
      [.arrive bob 4, .arrive carol 4, .ask .enrolled now ⟨bob, .connect "bob" ""⟩,
        .ask .enrolled now ⟨bob, .post "robert" "hello" ""⟩]
    let joining : Act := .ask .enrolled now ⟨carol, .connect "carol" "general"⟩
    let during : List Act :=
      [.ask .enrolled now ⟨carol, .post "carol" "hi" ""⟩, .read carol,
        .ask .enrolled now ⟨bob, .post "bob" "welcome" "general"⟩]
    let start := reached .default earlier
    (start.apply .enrolled now ⟨carol, .connect "carol" "general"⟩).2 = .ok () ∧
      Stays carol (start.step joining) during ∧
      broadcasts (received carol start (joining :: during)) =
        [⟨"bob", "hello", "general", now⟩, ⟨"bob", "welcome", "general", now⟩] := by
  intro now bob carol earlier joining during start
  have accepted : (start.apply .enrolled now ⟨carol, .connect "carol" "general"⟩).2 = .ok () := by
    decide +kernel
  have stays : Stays carol (start.step joining) during := by
    refine ⟨?_, ?_, ?_, trivial⟩ <;> decide +kernel
  have admitted : AdmitsAll carol start (joining :: during) := by
    refine ⟨?_, ?_, trivial, ?_, trivial⟩
    all_goals
      change Mailbox.acceptsAll _ _ = true
      decide +kernel
  have exact_stream :=
    (room_stream .default earlier during .enrolled now carol "carol" "general" accepted stays).2.1
      admitted
  refine ⟨accepted, stays, exact_stream.trans ?_⟩
  decide +kernel

end ChatRooms.Exchange
