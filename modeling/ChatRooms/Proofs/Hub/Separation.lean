import ChatRooms.Proofs.Hub.Thinning

/-! A room kept apart. Its clients have names that nobody else has, and the others neither enter it
nor write to it. What is asked for by the others is then without effect on the room: its history,
its registrations and the mailboxes of its clients are as if the others had never asked. -/
namespace ChatRooms.Exchange

section Setting

variable (ours : ClientId → Bool) (names : String → Bool) (home : String)

/-- Ours connect to the room under one of the names and ask for its users. The others connect
elsewhere under other names, do not post to the room, and write no letters to the names. -/
def Apart (defaultRoom : String) (request : Request) : Prop :=
  let resolved (room : String) := if room.isEmpty then defaultRoom else room
  match request.command with
  | .connect user room =>
      (resolved room = home ↔ ours request.sender = true) ∧
        (names user = true ↔ ours request.sender = true)
  | .listUsers room => ours request.sender = true → resolved room = home
  | .post _ _ room => ours request.sender = true ∨ room.isEmpty = true ∨ room ≠ home
  | .direct letter => ours request.sender = true ∨ names letter.recipient = false
  | .disconnect => True

inductive Thinned (seen : Timestamp → Timestamp) :
    Exchange → Exchange → List Act → List Act → Prop where
  | nil (left right : Exchange) : Thinned seen left right [] []
  | drop {left right : Exchange} {acts kept : List Act} (visit : Visit) (now : Timestamp)
      (request : Request) (theirs : ours request.sender = false)
      (rest : Thinned seen (left.step (.ask visit now request)) right acts kept) :
      Thinned seen left right (.ask visit now request :: acts) kept
  | keep {left right : Exchange} {acts kept : List Act} (visit visit' : Visit)
      (now now' : Timestamp) (request : Request) (mine : ours request.sender = true)
      (ordered : Visit.AgreeOn ours visit visit' (roster left.hub request)
        (roster right.hub request))
      (clock : seen now = seen now')
      (rest : Thinned seen (left.step (.ask visit now request))
        (right.step (.ask visit' now' request)) acts kept) :
      Thinned seen left right (.ask visit now request :: acts) (.ask visit' now' request :: kept)
  | quiet {left right : Exchange} {acts kept : List Act} (act : Act)
      (quiet : ∀ visit now request, act ≠ .ask visit now request)
      (rest : Thinned seen (left.step act) (right.step act) acts kept) :
      Thinned seen left right (act :: acts) (act :: kept)

/-- The room and ours are the same in both, and in the second there is nobody but ours. -/
structure Beside (seen : Timestamp → Timestamp) (left right : Exchange) : Prop where
  defaultRoom : left.hub.defaultRoom = right.hub.defaultRoom
  capacity : left.hub.history.capacity = right.hub.history.capacity
  members : left.hub.members.filter (ours ·.id) = right.hub.members
  housed : Housed ours names home left.hub.members
  recent : (left.hub.history.recent home).map (Broadcast.restamp seen) =
    (right.hub.history.recent home).map (Broadcast.restamp seen)
  mail : left.mail.Matches (fun one two => one.restamp seen = two.restamp seen)
    (ours · = true) right.mail
  left_sound : left.Sound
  right_sound : right.Sound
  left_acquainted : left.Acquainted
  right_acquainted : right.Acquainted

end Setting

variable {ours : ClientId → Bool} {names : String → Bool} {home : String}
  {seen : Timestamp → Timestamp} {visit visit' : Visit} {now now' : Timestamp}
  {client : ClientId} {left right : Exchange} {request : Request}

/-! ### A command of ours -/

theorem Beside.entrant? (beside : Beside ours names home seen left right)
    (mine : ours request.sender = true) :
    entrant? left.hub request = entrant? right.hub request := by
  simp only [Exchange.entrant?, isRegistered_of_filter beside.members mine, Hub.roomOrDefault,
    beside.defaultRoom]

theorem entrant_mine {hub : Hub} {member : Member}
    (entered : entrant? hub request = some member) : member.id = request.sender := by
  obtain ⟨_, _, _, _, same⟩ := entrant?_eq_some entered
  rw [same]

theorem Beside.roster (beside : Beside ours names home seen left right)
    (mine : ours request.sender = true) :
    (roster left.hub request).filter (ours ·.id) = roster right.hub request := by
  unfold Exchange.roster
  split
  · rw [← beside.members, List.filter_comm]
  · rw [List.filter_append, beside.members, beside.entrant? mine]
    congr 1
    apply List.filter_eq_self.mpr
    intro member entered
    rw [entrant_mine (Option.mem_toList.mp entered)]
    exact mine

-- Whom a command visits is on the roster that it leaves.
theorem members_sublist (hub : Hub) (request : Request) (stays : request.command ≠ .disconnect) :
    hub.members.Sublist (Exchange.roster hub request) := by
  unfold Exchange.roster
  split
  · contradiction
  · exact List.sublist_append_left _ _

-- Whoever is on the roster that a command leaves is at home exactly if it is one of ours.
theorem Beside.roster_housed (beside : Beside ours names home seen left right)
    (apart : Apart ours names home left.hub.defaultRoom request) :
    Housed ours names home (Exchange.roster left.hub request) := by
  intro member present
  rcases List.mem_append.mp (roster_subset _ _ present) with registered | entered
  · exact beside.housed member registered
  · obtain ⟨user, room, asked, _, same⟩ := entrant?_eq_some (Option.mem_toList.mp entered)
    simp only [Apart, asked] at apart
    rw [same]
    exact apart

-- Whoever enters is on the roster behind the others.
theorem enroll_members {hub : Hub} {member : Member}
    (entered : Exchange.entrant? hub request = some member) :
    (hub.enroll member).members = Exchange.roster hub request := by
  obtain ⟨_, _, asked, _⟩ := entrant?_eq_some entered
  simp only [Hub.enroll, Exchange.roster, asked, entered, Option.toList_some]

theorem Beside.connect_tries (beside : Beside ours names home seen left right) {sender : ClientId}
    {user room : String} (mine : ours sender = true)
    (apart : Apart ours names home left.hub.defaultRoom ⟨sender, .connect user room⟩)
    (ordered : Visit.AgreeOn ours visit visit'
      (Exchange.roster left.hub ⟨sender, .connect user room⟩)
      (Exchange.roster right.hub ⟨sender, .connect user room⟩))
    (clock : seen now = seen now') :
    thin ours seen (commandTries visit now left.hub ⟨sender, .connect user room⟩) =
      thin ours seen (commandTries visit' now' right.hub ⟨sender, .connect user room⟩) := by
  have same_entrant : Exchange.entrant? left.hub ⟨sender, .connect user room⟩ =
      Exchange.entrant? right.hub ⟨sender, .connect user room⟩ := beside.entrant? mine
  cases entered : Exchange.entrant? right.hub ⟨sender, .connect user room⟩ with
  | none => simp only [commandTries, same_entrant, entered]
  | some member =>
      rw [entered] at same_entrant
      have self : member.id = sender := entrant_mine entered
      have enrolled := enroll_members same_entrant
      have enrolled' := enroll_members entered
      have at_home : member.room = home := by
        have present : member ∈ Exchange.roster left.hub ⟨sender, .connect user room⟩ := by
          rw [← enrolled]
          exact List.mem_append_right _ (List.mem_singleton.mpr rfl)
        exact ((beside.roster_housed apart) member present).1.mpr (self ▸ mine)
      have replayed :
          ((left.hub.history.recent home).map Event.broadcast).map (Event.restamp seen) =
            ((right.hub.history.recent home).map Event.broadcast).map (Event.restamp seen) := by
        have recent := congrArg (List.map Event.broadcast) beside.recent
        rw [List.map_map, List.map_map] at recent ⊢
        exact recent
      have same : (left.hub.enroll member).members.filter (ours ·.id) =
          (right.hub.enroll member).members.filter (ours ·.id) := by
        rw [enrolled, enrolled']
        exact filter_of_filter (beside.roster mine)
      rw [← enrolled, ← enrolled'] at ordered
      have heard := filter_audience (entrant_keyed beside.left_sound.keyed same_entrant)
        (entrant_keyed beside.right_sound.keyed entered) ordered (List.Sublist.refl _)
        (List.Sublist.refl _) same home sender
      simp only [commandTries, same_entrant, entered, self, at_home, thin_append,
        thin_to mine, replayed, thin_fanout, heard, Event.restamp_joined, clock]

-- If all that could be found are ours or none is, it is all the same to leave out the others first.
theorem filter_find? {members : List Member} {mine hits : Member → Bool}
    (alike : ∀ one ∈ members, ∀ two ∈ members, hits one = true → hits two = true →
      mine one = mine two) :
    (members.find? hits).filter mine = (members.filter mine).find? hits := by
  induction members with
  | nil => rfl
  | cons first rest ih =>
      have later := ih fun one present two present' =>
        alike one (List.mem_cons_of_mem _ present) two (List.mem_cons_of_mem _ present')
      cases hit : hits first with
      | false =>
          rw [List.find?_cons_of_neg (by simp [hit]), later]
          cases is_mine : mine first with
          | false => rw [List.filter_cons_of_neg (by simp [is_mine])]
          | true =>
              rw [List.filter_cons_of_pos is_mine, List.find?_cons_of_neg (by simp [hit])]
      | true =>
          rw [List.find?_cons_of_pos hit]
          cases is_mine : mine first with
          | true =>
              rw [List.filter_cons_of_pos is_mine, List.find?_cons_of_pos hit]
              simp [Option.filter, is_mine]
          | false =>
              have nobody : (rest.filter mine).find? hits = none := by
                apply List.find?_eq_none.mpr
                intro member listed hit'
                obtain ⟨present, is_mine'⟩ := List.mem_filter.mp listed
                rw [← alike first List.mem_cons_self member (List.mem_cons_of_mem _ present) hit
                  hit', is_mine] at is_mine'
                contradiction
              rw [List.filter_cons_of_neg (by simp [is_mine]), nobody]
              simp [Option.filter, is_mine]

-- A name is that of one of ours in both, or of none of ours in either.
theorem Beside.find?_named (beside : Beside ours names home seen left right)
    (ordered : Visit.AgreeOn ours visit visit' left.hub.members right.hub.members)
    (name : String) :
    ((visit.arrange left.hub.members).find? (·.name = name)).filter (ours ·.id) =
      (visit'.arrange right.hub.members).find? (·.name = name) := by
  have only_ours : (visit'.arrange right.hub.members).filter (ours ·.id) =
      visit'.arrange right.hub.members :=
    List.filter_eq_self.mpr fun member visited =>
      mine_of_filter beside.members ((visit'.perm _).mem_iff.mp visited)
  have same := ordered _ _ (List.Sublist.refl _) (List.Sublist.refl _)
    (filter_of_filter beside.members)
  have named : ∀ member ∈ visit.arrange left.hub.members, decide (member.name = name) = true →
      (ours member.id = true ↔ names name = true) := by
    intro member visited hit
    rw [← of_decide_eq_true hit]
    exact (beside.housed member ((visit.perm _).mem_iff.mp visited)).2.symm
  rw [← only_ours, ← same]
  apply filter_find?
  intro one visited two visited' hit hit'
  rw [Bool.eq_iff_iff, named one visited hit, named two visited' hit']

theorem Housed.filter_home {members : List Member} (visit : Visit)
    (housed : Housed ours names home members) :
    (visit.arrange members).filter (·.room = home) =
      (visit.arrange members).filter (ours ·.id) := by
  apply List.filter_congr
  intro member visited
  have where_it_is := (housed member ((visit.perm _).mem_iff.mp visited)).1
  rw [Bool.eq_iff_iff, decide_eq_true_iff]
  exact where_it_is

theorem Beside.post_tries (beside : Beside ours names home seen left right) {sender : ClientId}
    {user content room : String} (mine : ours sender = true)
    (ordered : Visit.AgreeOn ours visit visit'
      (Exchange.roster left.hub ⟨sender, .post user content room⟩)
      (Exchange.roster right.hub ⟨sender, .post user content room⟩))
    (clock : seen now = seen now') :
    thin ours seen (commandTries visit now left.hub ⟨sender, .post user content room⟩) =
      thin ours seen (commandTries visit' now' right.hub ⟨sender, .post user content room⟩) := by
  have part := members_sublist left.hub ⟨sender, .post user content room⟩ (by simp)
  have part' := members_sublist right.hub ⟨sender, .post user content room⟩ (by simp)
  rcases said?_restamp ⟨sender, .post user content room⟩ (member?_of_filter beside.members mine)
    clock with ⟨silent, silent'⟩ | ⟨post, post', said, said', same, together⟩
  · simp only [commandTries, silent, silent']
  · have heard := filter_audience beside.left_sound.keyed beside.right_sound.keyed ordered
      part part' (filter_of_filter beside.members) post.room sender
    simp only [commandTries, said, said', thin_fanout, Event.restamp, same, ← together, heard]

/-- What a command of ours tries at ours is the same whether there are others or not. -/
theorem Beside.keep_tries (beside : Beside ours names home seen left right)
    (mine : ours request.sender = true)
    (apart : Apart ours names home left.hub.defaultRoom request)
    (ordered : Visit.AgreeOn ours visit visit' (Exchange.roster left.hub request)
      (Exchange.roster right.hub request))
    (clock : seen now = seen now') :
    thin ours seen (commandTries visit now left.hub request) =
      thin ours seen (commandTries visit' now' right.hub request) := by
  have same := filter_of_filter beside.members
  obtain ⟨sender, command⟩ := request
  cases command with
  | connect user room => exact beside.connect_tries mine apart ordered clock
  | disconnect =>
      simp only [commandTries, member?_of_filter beside.members mine]
      cases found : right.hub.member? sender with
      | none => rfl
      | some leaver =>
          cases Hub.id_of_member? found
          exact thin_farewell beside.left_sound.keyed beside.right_sound.keyed ordered
            (List.Sublist.refl _) (List.Sublist.refl _) same clock
  | post user content room => exact beside.post_tries mine ordered clock
  | direct letter =>
      have part := members_sublist left.hub ⟨sender, .direct letter⟩ (by simp)
      have part' := members_sublist right.hub ⟨sender, .direct letter⟩ (by simp)
      have named := beside.find?_named (fun _ _ within within' => ordered _ _ (within.trans part)
        (within'.trans part')) letter.recipient
      simp only [commandTries, ← named]
      cases found : (visit.arrange left.hub.members).find? (·.name = letter.recipient) with
      | none => rfl
      | some member =>
          have present := (visit.perm _).mem_iff.mp (List.mem_of_find?_eq_some found)
          have own := beside.left_sound.keyed.own member present
          cases reached : ours member.id <;>
            simp [thin, Option.filter, own, reached, Event.restamp, DirectMessage.restamp, clock]
  | listUsers room =>
      have part := members_sublist left.hub ⟨sender, .listUsers room⟩ (by simp)
      have part' := members_sublist right.hub ⟨sender, .listUsers room⟩ (by simp)
      have at_home : left.hub.roomOrDefault room = home := apart mine
      have at_home' : right.hub.roomOrDefault room = home := by
        rw [← at_home, Hub.roomOrDefault, Hub.roomOrDefault, beside.defaultRoom]
      have housed' : Housed ours names home right.hub.members := by
        rw [← beside.members]
        exact beside.housed.mono List.filter_sublist.subset
      simp only [commandTries, at_home, at_home', beside.housed.filter_home visit,
        housed'.filter_home visit', ordered _ _ part part' same]

/-! ### A command of the others -/

-- The others speak in other rooms.
theorem Beside.said_elsewhere (beside : Beside ours names home seen left right)
    (theirs : ours request.sender = false)
    (apart : Apart ours names home left.hub.defaultRoom request) {post : Broadcast}
    (said : Exchange.said? now left.hub request = some post) : post.room ≠ home := by
  obtain ⟨sender, command⟩ := request
  cases command with
  | post user content room =>
      obtain ⟨member, found, rfl⟩ := Option.map_eq_some_iff.mp said
      cases unnamed : room.isEmpty with
      | true =>
          simpa [unnamed] using beside.housed.elsewhere (Hub.mem_of_member? found)
            ((Hub.id_of_member? found).symm ▸ theirs)
      | false =>
          have elsewhere : room ≠ home := by simpa [Apart, theirs, unnamed] using apart
          simpa [unnamed] using elsewhere
  | connect | disconnect | direct | listUsers => contradiction

/-- What the others ask for tries nothing at ours. -/
theorem Beside.drop_tries (beside : Beside ours names home seen left right) (visit : Visit)
    (now : Timestamp) (theirs : ours request.sender = false)
    (apart : Apart ours names home left.hub.defaultRoom request) :
    thin ours seen (commandTries visit now left.hub request) = [] := by
  have housed := beside.roster_housed apart
  obtain ⟨sender, command⟩ := request
  cases command with
  | connect user room =>
      simp only [commandTries]
      cases entered : Exchange.entrant? left.hub ⟨sender, .connect user room⟩ with
      | none => rfl
      | some member =>
          have self : member.id = sender := entrant_mine entered
          have keyed := entrant_keyed beside.left_sound.keyed entered
          rw [← enroll_members entered] at housed
          have elsewhere : member.room ≠ home :=
            housed.elsewhere (List.mem_append_right _ (List.mem_singleton.mpr rfl)) (self ▸ theirs)
          simp only [self, thin_append, thin_to_theirs theirs, thin_fanout,
            filter_audience_elsewhere visit keyed housed elsewhere, List.map_nil, List.append_nil]
  | disconnect =>
      simp only [commandTries]
      cases found : left.hub.member? sender with
      | none => rfl
      | some leaver =>
          have self := Hub.id_of_member? found
          exact thin_farewell_theirs beside.left_sound.keyed beside.housed
            (beside.housed.elsewhere (Hub.mem_of_member? found) (self ▸ theirs))
  | post user content room =>
      simp only [commandTries]
      cases said : Exchange.said? now left.hub ⟨sender, .post user content room⟩ with
      | none => rfl
      | some post =>
          have elsewhere := beside.said_elsewhere theirs apart said
          simp only [thin_fanout, filter_audience_elsewhere visit beside.left_sound.keyed
            beside.housed elsewhere, List.map_nil]
  | direct letter =>
      simp only [commandTries]
      cases found : (visit.arrange left.hub.members).find? (·.name = letter.recipient) with
      | none => rfl
      | some member =>
          have present := (visit.perm _).mem_iff.mp (List.mem_of_find?_eq_some found)
          have named : member.name = letter.recipient := by simpa using List.find?_some found
          have other_name : names member.name = false := by
            rw [named]
            exact apart.resolve_left (by simp [theirs])
          have not_ours : ours member.id = false := by
            apply Bool.eq_false_iff.mpr
            intro mine
            rw [(beside.housed member present).2.mpr mine] at other_name
            contradiction
          simp [thin, beside.left_sound.keyed.own member present, not_ours]
  | listUsers room => simp [commandTries, thin, theirs]

/-! ### Steps -/

section Keep

variable (beside : Beside ours names home seen left right) (mine : ours request.sender = true)
  (apart : Apart ours names home left.hub.defaultRoom request)
  (ordered : Visit.AgreeOn ours visit visit' (Exchange.roster left.hub request)
    (Exchange.roster right.hub request)) (clock : seen now = seen now')

include beside mine in
theorem Beside.carried_members :
    (carried visit now left request).hub.members.filter (ours ·.id) =
      (carried visit' now' right request).hub.members := by
  rw [(carried_carries visit now left request).members,
    (carried_carries visit' now' right request).members, beside.roster mine]

include beside mine apart ordered clock

-- Those of ours that a command of ours finds closed are the same, and in the same order.
theorem Beside.keep_waiting :
    (waiting (carried visit now left request).hub).filter ours =
      waiting (carried visit' now' right request).hub := by
  have members : (carried visit now left request).hub.members.filter (ours ·.id) =
      (carried visit' now' right request).hub.members := beside.carried_members mine
  have tried := beside.keep_tries mine apart ordered clock
  have only_ours : (waiting (carried visit' now' right request).hub).filter ours =
      waiting (carried visit' now' right request).hub := by
    apply List.filter_eq_self.mpr
    intro client listed
    obtain ⟨member, present, self⟩ := Hub.isRegistered_iff.mp (List.mem_filter.mp listed).2
    exact self ▸ mine_of_filter members present
  have found : (foundClosed left.mail (commandTries visit now left.hub request)).filter ours =
      (foundClosed right.mail (commandTries visit' now' right.hub request)).filter ours := by
    rw [filter_foundClosed seen, filter_foundClosed seen, tried]
    exact foundClosed_thin (fun client mine => (beside.mail.box client mine).opened) _
  rw [← only_ours]
  simp only [waiting, carried_closed, beside.left_sound.swept, beside.right_sound.swept,
    List.append_nil]
  rw [List.filter_comm, found, List.filter_comm ours]
  apply List.filter_congr
  intro client listed
  exact isRegistered_of_filter members (List.mem_filter.mp listed).2

theorem Beside.keep_swept : (swept visit now left request).filter (ours ·.id) =
    swept visit' now' right request := by
  have members : (carried visit now left request).hub.members.filter (ours ·.id) =
      (carried visit' now' right request).hub.members := beside.carried_members mine
  have roster := (carried_carries visit now left request).members
  have roster' := (carried_carries visit' now' right request).members
  rw [swept_eq_sweep, swept_eq_sweep]
  refine sweep_thinned ordered (fun client mine => ?_) _ _ (roster ▸ beside.roster_housed apart)
    (carried_keyed visit now request beside.left_sound.keyed)
    (carried_keyed visit' now' request beside.right_sound.keyed)
    (roster ▸ List.Sublist.refl _) (roster' ▸ List.Sublist.refl _) members
    (beside.keep_waiting mine apart ordered clock) (by rw [roster]) (by rw [roster'])
  exact congrArg (!·) (beside.mail.box client mine).opened

/-- A request of ours tries the same at ours, with the departures that it leads to. -/
theorem Beside.keep_all_tries :
    thin ours seen (tries visit now left request) =
      thin ours seen (tries visit' now' right request) := by
  have members : (carried visit now left request).hub.members.filter (ours ·.id) =
      (carried visit' now' right request).hub.members := beside.carried_members mine
  have roster := (carried_carries visit now left request).members
  have roster' := (carried_carries visit' now' right request).members
  have housed := beside.roster_housed apart
  rw [tries, tries, thin_append, thin_append, beside.keep_tries mine apart ordered clock,
    ← beside.keep_swept mine apart ordered clock]
  congr 1
  exact thin_farewells (carried_keyed visit now request beside.left_sound.keyed)
    (carried_keyed visit' now' request beside.right_sound.keyed) ordered clock _
    (housed.mono (swept_subset visit now left request).1)
    (roster ▸ housed) (roster ▸ List.Sublist.refl _) (roster' ▸ List.Sublist.refl _)
    (filter_of_filter members)

theorem Beside.keep_addressed (mine' : ours client = true) :
    (addressed client (tries visit now left request)).map (Event.restamp seen) =
      (addressed client (tries visit' now' right request)).map (Event.restamp seen) := by
  rw [← addressed_thin mine', ← addressed_thin mine',
    beside.keep_all_tries mine apart ordered clock]

theorem Beside.keep_members :
    (left.apply visit now request).1.hub.members.filter (ours ·.id) =
      (right.apply visit' now' request).1.hub.members := by
  rw [apply_members, apply_members, ← beside.roster mine,
    ← beside.keep_swept mine apart ordered clock, remaining, remaining, List.filter_comm]
  apply List.filter_congr
  intro member listed
  have mine := (List.mem_filter.mp listed).2
  rw [decide_eq_decide, not_iff_not, List.mem_map, List.mem_map]
  constructor
  · rintro ⟨leaver, gone, self⟩
    exact ⟨leaver, List.mem_filter.mpr ⟨gone, self ▸ mine⟩, self⟩
  · rintro ⟨leaver, gone, self⟩
    exact ⟨leaver, List.mem_of_mem_filter gone, self⟩

/-- A request of ours does the same to the room and to ours whether there are others or not. -/
theorem Beside.keep :
    Beside ours names home seen (left.apply visit now request).1
      (right.apply visit' now' request).1 where
  defaultRoom := by rw [apply_defaultRoom, apply_defaultRoom, beside.defaultRoom]
  capacity := by
    have left_kept := (step_settings left (.ask visit now request)).2
    have right_kept := (step_settings right (.ask visit' now' request)).2
    exact left_kept.trans (beside.capacity.trans right_kept.symm)
  members := beside.keep_members mine apart ordered clock
  housed := by
    rw [apply_members]
    exact (beside.roster_housed apart).mono List.filter_sublist.subset
  recent := by
    rw [apply_history, apply_history]
    rcases said?_restamp request (member?_of_filter beside.members mine) clock with
      ⟨silent, silent'⟩ | ⟨post, post', said, said', same, together⟩
    · rw [silent, silent']
      exact beside.recent
    · rw [said, said', Option.elim_some, Option.elim_some, History.map_recent_push,
        History.map_recent_push, beside.recent, beside.capacity, same, together]
  mail.box client mine' := by
    rw [apply_box, apply_box]
    exact (beside.mail.box client mine').putAll
      (forall₂_of_map_eq (beside.keep_addressed mine apart ordered clock mine'))
  mail.known client mine' := by
    rw [apply_knows visit now request beside.left_acquainted,
      apply_knows visit' now' request beside.right_acquainted, beside.mail.known client mine',
      beside.entrant? mine]
  left_sound := apply_sound visit now request beside.left_sound
  right_sound := apply_sound visit' now' request beside.right_sound
  left_acquainted := apply_acquainted visit now request beside.left_acquainted
  right_acquainted := apply_acquainted visit' now' request beside.right_acquainted

end Keep

section Drop

variable (beside : Beside ours names home seen left right)
  (theirs : ours request.sender = false)
  (apart : Apart ours names home left.hub.defaultRoom request)

include beside theirs apart

-- None of ours is found closed, so none of ours goes.
theorem Beside.drop_swept (visit : Visit) (now : Timestamp) :
    ∀ leaver ∈ swept visit now left request, leaver.room ≠ home := by
  have housed := beside.roster_housed apart
  have nothing := beside.drop_tries visit now theirs apart
  intro leaver gone there
  obtain ⟨_, _, other, present, together, _, told⟩ :=
    (mem_swept visit now request beside.left_sound.keyed beside.left_sound.swept).mp gone
  have mine := (housed other present).1.mp (together.trans there)
  have untold : (addressed other.id (commandTries visit now left.hub request)).map
      (Event.restamp seen) = [] := by
    rw [← addressed_thin mine, nothing]
    rfl
  exact told (List.map_eq_nil_iff.mp untold)

theorem Beside.drop_all_tries (visit : Visit) (now : Timestamp) :
    thin ours seen (tries visit now left request) = [] := by
  have roster := (carried_carries visit now left request).members
  rw [tries, thin_append, beside.drop_tries visit now theirs apart,
    thin_farewells_theirs (carried_keyed visit now request beside.left_sound.keyed) _
      (beside.drop_swept theirs apart visit now) (roster ▸ beside.roster_housed apart),
      List.append_nil]

theorem Beside.drop_arrivals (visit : Visit) (now : Timestamp) (mine : ours client = true) :
    addressed client (tries visit now left request) = [] := by
  have untold : (addressed client (tries visit now left request)).map (Event.restamp seen) =
      [] := by
    rw [← addressed_thin mine, beside.drop_all_tries theirs apart]
    rfl
  exact List.map_eq_nil_iff.mp untold

theorem Beside.drop_members (visit : Visit) (now : Timestamp) :
    (left.apply visit now request).1.hub.members.filter (ours ·.id) = right.hub.members := by
  have housed := beside.roster_housed apart
  have roster : (Exchange.roster left.hub request).filter (ours ·.id) = right.hub.members := by
    rw [← beside.members]
    unfold Exchange.roster
    split
    · exact filter_strike_theirs left.hub theirs
    · have nobody_enters : (Exchange.entrant? left.hub request).toList.filter (ours ·.id) = [] := by
        apply List.filter_eq_nil_iff.mpr
        intro member entered mine
        rw [entrant_mine (Option.mem_toList.mp entered), theirs] at mine
        contradiction
      rw [List.filter_append, nobody_enters, List.append_nil]
  rw [apply_members, remaining, List.filter_comm, ← roster]
  apply List.filter_eq_self.mpr
  intro member listed
  obtain ⟨present, mine⟩ := List.mem_filter.mp listed
  rw [decide_eq_true_iff]
  intro gone
  obtain ⟨leaver, is_swept, self⟩ := List.mem_map.mp gone
  have leaver_home := (housed leaver ((swept_subset visit now left request).1 is_swept)).1.mpr
    (self ▸ mine)
  exact beside.drop_swept theirs apart visit now leaver is_swept leaver_home

/-- A request of the others leaves the room and ours as they are. -/
theorem Beside.drop (visit : Visit) (now : Timestamp) :
    Beside ours names home seen (left.apply visit now request).1 right where
  defaultRoom := by rw [apply_defaultRoom, beside.defaultRoom]
  capacity := (step_settings left (.ask visit now request)).2.trans beside.capacity
  members := beside.drop_members theirs apart visit now
  housed := by
    rw [apply_members]
    exact (beside.roster_housed apart).mono List.filter_sublist.subset
  recent := by
    rw [apply_history, ← beside.recent]
    cases said : Exchange.said? now left.hub request with
    | none => rfl
    | some post =>
        have elsewhere := beside.said_elsewhere theirs apart said
        rw [Option.elim_some, History.recent_push, if_neg (Ne.symm elsewhere)]
  mail.box client mine := by
    rw [apply_box, beside.drop_arrivals theirs apart visit now mine, Mailbox.putAll_nil]
    exact beside.mail.box client mine
  mail.known client mine := by
    rw [apply_knows visit now request beside.left_acquainted, ← beside.mail.known client mine]
    cases entered : Exchange.entrant? left.hub request with
    | none => rw [Option.any_none, Bool.or_false]
    | some member =>
        have apart_from_us : member.id ≠ client := by
          rintro rfl
          rw [entrant_mine entered, theirs] at mine
          contradiction
        simp [apart_from_us]
  left_sound := apply_sound visit now request beside.left_sound
  right_sound := beside.right_sound
  left_acquainted := apply_acquainted visit now request beside.left_acquainted
  right_acquainted := beside.right_acquainted

end Drop

theorem Beside.quiet (beside : Beside ours names home seen left right) (act : Act)
    (quiet : ∀ visit now request, act ≠ .ask visit now request) :
    Beside ours names home seen (left.step act) (right.step act) := by
  have mail := quiet_matches act quiet beside.left_acquainted beside.right_acquainted beside.mail
  have left_sound := step_sound act beside.left_sound
  have right_sound := step_sound act beside.right_sound
  have left_acquainted := step_acquainted act beside.left_acquainted
  have right_acquainted := step_acquainted act beside.right_acquainted
  rcases quiet_hub act quiet with kept | cleared
  · refine ⟨?_, ?_, ?_, ?_, ?_, mail, left_sound, right_sound, left_acquainted,
      right_acquainted⟩
    · rw [kept, kept, beside.defaultRoom]
    · rw [kept, kept, beside.capacity]
    · rw [kept, kept, beside.members]
    · rw [kept]
      exact beside.housed
    · rw [kept, kept, beside.recent]
  · refine ⟨?_, ?_, ?_, ?_, ?_, mail, left_sound, right_sound, left_acquainted,
      right_acquainted⟩
    · simp only [cleared, Hub.reset, beside.defaultRoom]
    · simp only [cleared, Hub.reset, History.clear, beside.capacity]
    · simp only [cleared, Hub.reset, List.filter_nil]
    · rw [cleared]
      intro member present
      contradiction
    · simp only [cleared, Hub.reset, History.clear, History.recent, List.find?_nil]

theorem create_beside (config : Config) :
    Beside ours names home seen (create config) (create config) where
  defaultRoom := rfl
  capacity := rfl
  members := rfl
  housed _ present := by contradiction
  recent := rfl
  mail.box client _ := Mailbox.matches_refl (fun _ => by rfl) _
  mail.known _ _ := rfl
  left_sound := create_sound config
  right_sound := create_sound config
  left_acquainted _ present := by contradiction
  right_acquainted _ present := by contradiction

/-- Runs side by side, in the first of which the others ask what they like. -/
theorem Beside.run {acts kept : List Act} (beside : Beside ours names home seen left right)
    (thinned : Thinned ours seen left right acts kept)
    (apart : ∀ visit now request, .ask visit now request ∈ acts →
      Apart ours names home left.hub.defaultRoom request) :
    Beside ours names home seen (left.run acts) (right.run kept) ∧
      ∀ client, ours client = true →
        (received client left acts).map (Event.restamp seen) =
          (received client right kept).map (Event.restamp seen) := by
  induction thinned with
  | nil left right => exact ⟨beside, fun _ _ => rfl⟩
  | @drop left right acts kept visit now request theirs rest ih =>
      have now_apart := apart visit now request List.mem_cons_self
      obtain ⟨after, told⟩ := ih (beside.drop theirs now_apart visit now)
        fun visit' now' request' listed => by
          rw [(step_settings left (.ask visit now request)).1]
          exact apart visit' now' request' (List.mem_cons_of_mem _ listed)
      refine ⟨after, fun client mine => ?_⟩
      have nothing : arrivals client left (.ask visit now request) = [] := by
        rw [arrivals_ask, beside.drop_arrivals theirs now_apart visit now mine,
          Mailbox.taken_eq_take, List.take_nil]
      rw [received, nothing, List.nil_append]
      exact told client mine
  | @keep left right acts kept visit visit' now now' request mine ordered clock rest ih =>
      have now_apart := apart visit now request List.mem_cons_self
      obtain ⟨after, told⟩ := ih (beside.keep mine now_apart ordered clock)
        fun visit' now' request' listed => by
          rw [(step_settings left (.ask visit now request)).1]
          exact apart visit' now' request' (List.mem_cons_of_mem _ listed)
      refine ⟨after, fun client mine' => ?_⟩
      have alike : (arrivals client left (.ask visit now request)).map (Event.restamp seen) =
          (arrivals client right (.ask visit' now' request)).map (Event.restamp seen) := by
        rw [arrivals_ask, arrivals_ask, Mailbox.taken_eq_take, Mailbox.taken_eq_take,
          List.map_take, List.map_take, (beside.mail.box client mine').free,
          beside.keep_addressed mine now_apart ordered clock mine']
      rw [received, received, List.map_append, List.map_append, alike, told client mine']
  | @quiet left right acts kept act quiet rest ih =>
      obtain ⟨after, told⟩ := ih (beside.quiet act quiet) fun visit now request listed => by
        rw [(step_settings left act).1]
        exact apart visit now request (List.mem_cons_of_mem _ listed)
      refine ⟨after, fun client mine => ?_⟩
      rw [received, received, arrivals_of_quiet client left act quiet,
        arrivals_of_quiet client right act quiet]
      exact told client mine

/-- Rooms do not interfere. If the others keep out of a room, and neither write to it nor to the
names of ours, nothing that they ask for matters to the room: without it the history of the room,
the registrations of ours, and what is and has been put in their mailboxes are the same. -/
theorem rooms_apart (config : Config) (ours : ClientId → Bool) (names : String → Bool)
    (home : String) (seen : Timestamp → Timestamp) {acts kept : List Act}
    (apart : ∀ visit now request, .ask visit now request ∈ acts →
      Apart ours names home config.defaultRoom request)
    (thinned : Thinned ours seen (create config) (create config) acts kept) :
    let left := reached config acts
    let right := reached config kept
    (left.hub.history.recent home).map (Broadcast.restamp seen) =
      (right.hub.history.recent home).map (Broadcast.restamp seen) ∧
    left.hub.members.filter (ours ·.id) = right.hub.members ∧
    ∀ client, ours client = true →
      left.hub.member? client = right.hub.member? client ∧
      (left.mail.box client).Matches (fun one two => one.restamp seen = two.restamp seen)
        (right.mail.box client) ∧
      (received client (create config) acts).map (Event.restamp seen) =
        (received client (create config) kept).map (Event.restamp seen) := by
  intro left right
  obtain ⟨beside, told⟩ : Beside ours names home seen left right ∧ _ :=
    (create_beside config).run thinned apart
  exact ⟨beside.recent, beside.members, fun client mine =>
    ⟨member?_of_filter beside.members mine, beside.mail.box client mine, told client mine⟩⟩

theorem rooms_apart_of_listener :
    let now : Timestamp := ⟨0, 0, by decide, by decide, by decide⟩
    let later : Timestamp := ⟨1, 0, by decide, by decide, by decide⟩
    let ann : ClientId := ⟨1⟩
    let bob : ClientId := ⟨2⟩
    let eve : ClientId := ⟨3⟩
    let ours (client : ClientId) : Bool := client.number < 3
    let joining (clock : Timestamp) : Act := .ask .enrolled clock ⟨ann, .connect "ann" "den"⟩
    let entering (clock : Timestamp) : Act := .ask .enrolled clock ⟨bob, .connect "bob" "den"⟩
    let teasing (clock : Timestamp) : Act := .ask .enrolled clock ⟨ann, .post "ann" "psst" "hall"⟩
    let greeting (clock : Timestamp) : Act := .ask .enrolled clock ⟨ann, .post "ann" "hello" ""⟩
    let acts : List Act :=
      [.arrive ann 8, .arrive bob 8, .arrive eve 2, joining now,
        .ask .enrolled now ⟨eve, .connect "eve" "hall"⟩, entering now,
        .ask .enrolled now ⟨eve, .listUsers "den"⟩,
        .ask .enrolled now ⟨eve, .post "eve" "noise" ""⟩, .close eve, teasing now, greeting now]
    let kept : List Act :=
      [.arrive ann 8, .arrive bob 8, .arrive eve 2, joining later, entering later, .close eve,
        teasing later, greeting later]
    Thinned ours (fun _ => now) (create .default) (create .default) acts kept ∧
      (reached .default acts).hub.isRegistered eve = false ∧
      received bob (create .default) kept = [.broadcast ⟨"ann", "hello", "den", later⟩] ∧
      (received bob (create .default) acts).map (Event.restamp fun _ => now) =
        (received bob (create .default) kept).map (Event.restamp fun _ => now) := by
  intro now later ann bob eve ours joining entering teasing greeting acts kept
  let names (name : String) : Bool := name = "ann" || name = "bob"
  have thinned : Thinned ours (fun _ => now) (create .default) (create .default) acts kept := by
    have in_order {members members' : List Member} :
        Visit.AgreeOn ours .enrolled .enrolled members members' := fun _ _ _ _ same => same
    refine .quiet _ (by simp) (.quiet _ (by simp) (.quiet _ (by simp)
      (.keep _ _ _ _ _ rfl in_order rfl (.drop _ _ _ rfl (.keep _ _ _ _ _ rfl in_order rfl
        (.drop _ _ _ rfl (.drop _ _ _ rfl (.quiet _ (by simp)
          (.keep _ _ _ _ _ rfl in_order rfl (.keep _ _ _ _ _ rfl in_order rfl
            (.nil _ _)))))))))))
  have apart : ∀ visit now request, .ask visit now request ∈ acts →
      Apart ours names "den" Config.default.defaultRoom request := by
    intro visit now request listed
    simp only [acts, joining, entering, teasing, greeting, List.mem_cons, List.not_mem_nil,
      Act.ask.injEq, reduceCtorEq, false_or, or_false] at listed
    rcases listed with ⟨_, _, rfl⟩ | ⟨_, _, rfl⟩ | ⟨_, _, rfl⟩ | ⟨_, _, rfl⟩ | ⟨_, _, rfl⟩ |
      ⟨_, _, rfl⟩ | ⟨_, _, rfl⟩ <;> simp [Apart, ours, names, ann, bob, eve]
  obtain ⟨_, _, same⟩ := rooms_apart .default ours names "den" (fun _ => now) apart thinned
  exact ⟨thinned, by decide +kernel, by decide +kernel, (same bob rfl).2.2⟩

end ChatRooms.Exchange
