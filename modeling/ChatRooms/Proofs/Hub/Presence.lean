import ChatRooms.Proofs.Hub.Run
import ChatRooms.Proofs.Hub.Told

/-! Who is in a room can be followed from its announcements. A member that misses none is told once
of each client that enters or leaves, and of nobody else; so a list of the users, with those
announced since put in and taken out, is the next list. -/
namespace ChatRooms

def before? (ending text : String) : Option String :=
  if ending.toList.isSuffixOf text.toList then
    some (String.ofList (text.toList.take (text.toList.length - ending.toList.length)))
  else none

theorem before?_append (start ending : String) : before? ending (start ++ ending) = some start := by
  simp [before?]

def Event.joinedName? (room : String) : Event → Option String
  | .system notice _ => before? (" joined " ++ room) notice
  | _ => none

def Event.leftName? (room : String) : Event → Option String
  | .system notice _ => before? (" left " ++ room) notice
  | _ => none

theorem joinedName?_joined (name room : String) (now : Timestamp) :
    (Event.joined name room now).joinedName? room = some name := by
  rw [Event.joined, Event.joinedName?, String.append_assoc]
  exact before?_append _ _

theorem leftName?_left (name room : String) (now : Timestamp) :
    (Event.left name room now).leftName? room = some name := by
  rw [Event.left, Event.leftName?, String.append_assoc]
  exact before?_append _ _

-- The two announcements differ in the six characters before the room, whatever the names are.
theorem no_common_ending (start other room : List Char) :
    start ++ " left ".toList ++ room ≠ other ++ " joined ".toList ++ room := by
  intro same
  have cut := List.append_cancel_right same
  have parts : other ++ " joined ".toList = (other ++ " j".toList) ++ "oined ".toList := by
    simp
  rw [parts] at cut
  have endings := (List.append_inj' cut (by decide)).2
  exact absurd endings (by decide)

theorem leftName?_joined (name room : String) (now : Timestamp) :
    (Event.joined name room now).leftName? room = none := by
  simp only [Event.joined, Event.leftName?, before?]
  split
  · rename_i suffix
    obtain ⟨start, same⟩ := List.isSuffixOf_iff_suffix.mp suffix
    simp only [String.toList_append, ← List.append_assoc] at same
    exact absurd same (no_common_ending _ _ _)
  · rfl

theorem joinedName?_left (name room : String) (now : Timestamp) :
    (Event.left name room now).joinedName? room = none := by
  simp only [Event.left, Event.joinedName?, before?]
  split
  · rename_i suffix
    obtain ⟨start, same⟩ := List.isSuffixOf_iff_suffix.mp suffix
    simp only [String.toList_append, ← List.append_assoc] at same
    exact absurd same.symm (no_common_ending _ _ _)
  · rfl

def joinedNames (room : String) (events : List Event) : List String :=
  events.filterMap (·.joinedName? room)

def leftNames (room : String) (events : List Event) : List String :=
  events.filterMap (·.leftName? room)

@[simp] theorem joinedNames_nil (room : String) : joinedNames room [] = [] := rfl

@[simp] theorem leftNames_nil (room : String) : leftNames room [] = [] := rfl

namespace Exchange

def newcomer? (exchange : Exchange) : Act → Option Member
  | .ask _ _ request => entrant? exchange.hub request
  | _ => none

def entering (room : String) (exchange : Exchange) (act : Act) : List Member :=
  (exchange.newcomer? act).toList.filter (·.room = room)

/-- The clients in a room, those entering it included, that are not registered after an act. -/
def leaving (room : String) (exchange : Exchange) (act : Act) : List Member :=
  (exchange.hub.members ++ (exchange.newcomer? act).toList).filter fun member =>
    member.room = room && !(exchange.step act).hub.isRegistered member.id

theorem present_nodup {exchange : Exchange} (act : Act) (keyed : exchange.hub.Keyed) :
    ((exchange.hub.members ++ (exchange.newcomer? act).toList).map (·.id)).Nodup := by
  cases entered : exchange.newcomer? act with
  | none => simpa using keyed.distinct
  | some member =>
      cases act with
      | ask visit now request =>
          exact (entrant_keyed keyed entered).distinct
      | arrive | share | release | read | close | reset => contradiction

theorem step_members_subset (exchange : Exchange) (act : Act) :
    (exchange.step act).hub.members ⊆
      exchange.hub.members ++ (exchange.newcomer? act).toList := by
  cases act with
  | ask visit now request =>
      intro member stays
      rw [step, apply_members] at stays
      have listed := (mem_remaining.mp stays).1
      unfold roster at listed
      split at listed
      · exact List.mem_append_left _ (List.mem_of_mem_filter listed)
      · exact listed
  | arrive newcomer capacity =>
      rw [step, arrive_hub]
      exact List.subset_append_left _ _
  | reset => exact List.nil_subset _
  | share | release | read | close => exact List.subset_append_left _ _

theorem mem_step_members {exchange : Exchange} {act : Act} {member : Member}
    (keyed : exchange.hub.Keyed) :
    member ∈ (exchange.step act).hub.members ↔
      member ∈ exchange.hub.members ++ (exchange.newcomer? act).toList ∧
        (exchange.step act).hub.isRegistered member.id = true := by
  have subset := step_members_subset exchange act
  constructor
  · intro stays
    exact ⟨subset stays, Hub.isRegistered_iff.mpr ⟨member, stays, rfl⟩⟩
  · rintro ⟨present, registered⟩
    obtain ⟨other, stays, same⟩ := Hub.isRegistered_iff.mp registered
    have self := List.inj_on_of_nodup_map (present_nodup act keyed) (subset stays) present same
    exact self ▸ stays

-- Those in a room after an act, with those who left it, are those who were in it before, with
-- those who entered it.
theorem usersIn_step {exchange : Exchange} (room : String) (act : Act)
    (keyed : exchange.hub.Keyed) (after_keyed : (exchange.step act).hub.Keyed) :
    ((exchange.step act).hub.usersIn room ++ (leaving room exchange act).map (·.name)).Perm
      (exchange.hub.usersIn room ++ (entering room exchange act).map (·.name)) := by
  let present := exchange.hub.members ++ (exchange.newcomer? act).toList
  let stays (member : Member) : Bool := (exchange.step act).hub.isRegistered member.id
  have here_once : (present.filter (·.room = room)).Nodup :=
    ((present_nodup act keyed).of_map _).filter _
  -- Nobody is listed twice on either side, so it is enough that the same are listed.
  have kept : ((exchange.step act).hub.members.filter (·.room = room)).Perm
      ((present.filter (·.room = room)).filter stays) := by
    apply (List.perm_ext_iff_of_nodup ((after_keyed.distinct.of_map _).filter _)
      (here_once.filter _)).mpr
    intro member
    simp only [List.mem_filter, mem_step_members keyed, present, stays]
    tauto
  have lost : leaving room exchange act =
      (present.filter (·.room = room)).filter fun member => !stays member := by
    rw [leaving, List.filter_filter]
    apply List.filter_congr
    intro member _
    simp [stays, Bool.and_comm]
  have parted := (kept.append_right (leaving room exchange act)).trans
    (lost ▸ List.filter_append_perm stays (present.filter (·.room = room)))
  have named := parted.map (·.name)
  simpa [Hub.usersIn, entering, present] using named

theorem swept_subset (visit : Visit) (now : Timestamp) (exchange : Exchange)
    (request : Request) : swept visit now exchange request ⊆ roster exchange.hub request ∧
      ((swept visit now exchange request).map (·.id)).Nodup := by
  have departed_facts := departed_subset visit now
    (carried visit now exchange request).hub.members.length (carried visit now exchange request)
  rw [(carried_carries visit now exchange request).members] at departed_facts
  simpa only [swept, (carried_carries visit now exchange request).members] using departed_facts

def quitter (hub : Hub) (request : Request) : List Member :=
  match request.command with
  | .disconnect => (hub.member? request.sender).toList
  | _ => []

theorem command_notices {hub : Hub} {client : ClientId} {member : Member} (visit : Visit)
    (now : Timestamp) (request : Request) (keyed : hub.Keyed)
    (found : hub.member? client = some member) :
    notices (addressed client (commandTries visit now hub request)) =
      (((entrant? hub request).toList.filter (·.room = member.room)).map fun entrant =>
        Event.joined entrant.name entrant.room now) ++
      (((quitter hub request).filter fun leaver =>
        leaver.room = member.room && leaver.id ≠ client).map fun leaver =>
          Event.left leaver.name leaver.room now) := by
  obtain ⟨sender, command⟩ := request
  cases command with
  | connect user room =>
      rw [addressed_connect visit now sender user room keyed found, notices_eq_self]
      · simp [quitter]
      · intro event told
        obtain ⟨_, _, rfl⟩ := List.mem_map.mp told
        rfl
  | disconnect =>
      rw [addressed_disconnect visit now sender keyed found, notices_eq_self]
      · simp [quitter, entrant?]
      · intro event told
        obtain ⟨_, _, rfl⟩ := List.mem_map.mp told
        rfl
  | post user content room =>
      rw [addressed_post visit now sender user content room keyed found, notices_posts]
      rfl
  | direct letter =>
      apply List.filter_eq_nil_iff.mpr
      intro event told
      rw [addressed_direct told]
      simp [Event.isNotice]
  | listUsers room =>
      apply List.filter_eq_nil_iff.mpr
      intro event told
      obtain ⟨names, same⟩ := addressed_listUsers told
      rw [same]
      simp [Event.isNotice]

theorem roster_subset (hub : Hub) (request : Request) :
    roster hub request ⊆ hub.members ++ (entrant? hub request).toList := by
  unfold roster
  split
  · exact fun _ listed => List.mem_append_left _ (List.mem_of_mem_filter listed)
  · exact List.Subset.refl _

theorem of_mem_quitter {hub : Hub} {request : Request} {member : Member}
    (quits : member ∈ quitter hub request) :
    request.command = .disconnect ∧ hub.member? request.sender = some member := by
  unfold quitter at quits
  split at quits
  · rename_i asked
    exact ⟨asked, Option.mem_toList.mp quits⟩
  · contradiction

theorem quitter_swept_nodup {exchange : Exchange} (visit : Visit) (now : Timestamp)
    (request : Request) :
    (quitter exchange.hub request ++ swept visit now exchange request).Nodup := by
  obtain ⟨subset, once⟩ := swept_subset visit now exchange request
  refine List.nodup_append.mpr ⟨?_, once.of_map _, ?_⟩
  · unfold quitter
    split
    · cases exchange.hub.member? request.sender <;> simp
    · exact List.nodup_nil
  -- Whoever asked to leave is off the roster that the swept come from.
  · rintro leaver quits other gone rfl
    obtain ⟨asked, found⟩ := of_mem_quitter quits
    have listed := subset gone
    simp [roster, asked, Hub.id_of_member? found] at listed

-- Those who leave in a request are the client that asked to and those swept away.
theorem mem_gone {exchange : Exchange} (visit : Visit) (now : Timestamp) (request : Request)
    (keyed : exchange.hub.Keyed) (member : Member) :
    member ∈ quitter exchange.hub request ++ swept visit now exchange request ↔
      member ∈ exchange.hub.members ++ (entrant? exchange.hub request).toList ∧
        (exchange.step (.ask visit now request)).hub.isRegistered member.id = false := by
  obtain ⟨subset, _⟩ := swept_subset visit now exchange request
  rw [← Hub.member?_eq_none_iff, step, apply_member?, List.mem_append]
  constructor
  · rintro (quits | gone)
    · obtain ⟨asked, found⟩ := of_mem_quitter quits
      have self := Hub.id_of_member? found
      exact ⟨List.mem_append_left _ (Hub.mem_of_member? found), by simp [asked, self]⟩
    · have listed := List.mem_map_of_mem (f := fun member => member.id) gone
      exact ⟨roster_subset _ _ (subset gone), by rw [if_pos listed]⟩
  · rintro ⟨present, absent⟩
    split at absent
    · rename_i gone
      obtain ⟨other, listed, same⟩ := List.mem_map.mp gone
      have self := List.inj_on_of_nodup_map (present_nodup (.ask visit now request) keyed)
        (roster_subset _ _ (subset listed)) present same
      exact Or.inr (self ▸ listed)
    · split at absent
      · rename_i asked
        have registered : member ∈ exchange.hub.members := by
          simpa [entrant?, asked.1] using present
        have found := Hub.member?_of_mem keyed registered
        exact Or.inl (by simp [quitter, asked.1, asked.2, found])
      · obtain ⟨stranger, no_entrant⟩ := Option.or_eq_none_iff.mp absent
        rcases List.mem_append.mp present with registered | entered
        · rw [Hub.member?_of_mem keyed registered] at stranger
          contradiction
        · rw [Option.mem_toList.mp entered] at no_entrant
          simp [Option.filter] at no_entrant

theorem leaving_ask {exchange : Exchange} (visit : Visit) (now : Timestamp) (request : Request)
    (room : String) (keyed : exchange.hub.Keyed) :
    (leaving room exchange (.ask visit now request)).Perm
      ((quitter exchange.hub request ++ swept visit now exchange request).filter
        (·.room = room)) := by
  have present_once := (present_nodup (.ask visit now request) keyed).of_map _
  apply (List.perm_ext_iff_of_nodup (present_once.filter _)
    ((quitter_swept_nodup visit now request).filter _)).mpr
  intro member
  have gone := mem_gone visit now request keyed member
  simp only [List.mem_filter, gone, newcomer?, Bool.and_eq_true, Bool.not_eq_true']
  tauto

theorem carried_member? {exchange : Exchange} {client : ClientId} {member : Member}
    (visit : Visit) (now : Timestamp) (request : Request)
    (found : exchange.hub.member? client = some member)
    (stays : (exchange.step (.ask visit now request)).hub.isRegistered client = true) :
    (carried visit now exchange request).hub.member? client = some member ∧
      client ∉ (swept visit now exchange request).map (·.id) ∧
      ¬(request.command = .disconnect ∧ request.sender = client) := by
  rw [Hub.isRegistered_eq_isSome, step, apply_member?] at stays
  rw [Hub.member?, (carried_carries visit now exchange request).members, find?_roster]
  split at stays
  · contradiction
  · split at stays
    · contradiction
    · rename_i remains asks
      exact ⟨by simp [asks, found], remains, asks⟩

/-- A member that takes in all that is delivered in a request is told once of each other client that
enters or leaves its room, and of nobody else. -/
theorem notices_of_ask {exchange : Exchange} {client : ClientId} {member : Member}
    (visit : Visit) (now : Timestamp) (request : Request) (keyed : exchange.hub.Keyed)
    (found : exchange.hub.member? client = some member)
    (stays : (exchange.step (.ask visit now request)).hub.isRegistered client = true)
    (admitted : Admits client exchange (.ask visit now request)) :
    (notices (arrivals client exchange (.ask visit now request))).Perm
      (((entering member.room exchange (.ask visit now request)).map fun entrant =>
          Event.joined entrant.name entrant.room now) ++
        (leaving member.room exchange (.ask visit now request)).map fun leaver =>
          Event.left leaver.name leaver.room now) := by
  obtain ⟨still_found, remains, no_quitter⟩ := carried_member? visit now request found stays
  have now_keyed := carried_keyed visit now request keyed
  have others : (quitter exchange.hub request).filter (fun leaver =>
      leaver.room = member.room && leaver.id ≠ client) =
        (quitter exchange.hub request).filter (·.room = member.room) := by
    apply List.filter_congr
    intro leaver quits
    obtain ⟨asked, is_sender⟩ := of_mem_quitter quits
    have apart : leaver.id ≠ client := by
      rw [Hub.id_of_member? is_sender]
      exact fun same => no_quitter ⟨asked, same⟩
    simp [apart]
  have gone := (leaving_ask visit now request member.room keyed).map fun leaver =>
    Event.left leaver.name leaver.room now
  rw [arrivals_ask, Mailbox.taken_of_acceptsAll _ _ admitted, tries, addressed_append,
    notices_append, notices_eq_self (fun _ told => farewells_are_notices told),
    command_notices visit now request keyed found, others,
    addressed_farewells _ now_keyed still_found remains, List.append_assoc]
  refine List.Perm.append_left _ ?_
  simpa using gone.symm

-- The two kinds of names differ only in the announcements that they are read off.
theorem filterMap_notices {name? : Event → Option String} (events : List Event)
    (silent : ∀ event, event.isNotice = false → name? event = none) :
    (notices events).filterMap name? = events.filterMap name? := by
  rw [notices, List.filterMap_filter]
  apply List.filterMap_congr
  intro event _
  cases notice : event.isNotice with
  | true => rfl
  | false => exact (silent event notice).symm

theorem filterMap_told {name? : Event → Option String} {tell : Member → Event}
    {members : List Member} (told : ∀ member ∈ members, name? (tell member) = some member.name) :
    (members.map tell).filterMap name? = members.map (·.name) := by
  rw [List.filterMap_map, ← List.filterMap_eq_map]
  apply List.filterMap_congr
  intro member listed
  exact told member listed

theorem filterMap_untold {name? : Event → Option String} {tell : Member → Event}
    {members : List Member} (untold : ∀ member ∈ members, name? (tell member) = none) :
    (members.map tell).filterMap name? = [] := by
  rw [List.filterMap_map]
  apply List.filterMap_eq_nil_iff.mpr
  intro member listed
  exact untold member listed

theorem joinedNames_notices (room : String) (events : List Event) :
    joinedNames room (notices events) = joinedNames room events := by
  apply filterMap_notices
  intro event silent
  cases event with
  | system => contradiction
  | broadcast | users | direct => rfl

theorem leftNames_notices (room : String) (events : List Event) :
    leftNames room (notices events) = leftNames room events := by
  apply filterMap_notices
  intro event silent
  cases event with
  | system => contradiction
  | broadcast | users | direct => rfl

theorem joinedNames_told (room : String) (now : Timestamp) (entrants leavers : List Member)
    (entered : ∀ member ∈ entrants, member.room = room)
    (left : ∀ member ∈ leavers, member.room = room) :
    joinedNames room ((entrants.map fun member => Event.joined member.name member.room now) ++
      leavers.map fun member => Event.left member.name member.room now) =
        entrants.map (·.name) := by
  rw [joinedNames, List.filterMap_append, filterMap_told, filterMap_untold, List.append_nil]
  · intro member listed
    rw [left member listed, joinedName?_left]
  · intro member listed
    rw [entered member listed, joinedName?_joined]

theorem leftNames_told (room : String) (now : Timestamp) (entrants leavers : List Member)
    (entered : ∀ member ∈ entrants, member.room = room)
    (left : ∀ member ∈ leavers, member.room = room) :
    leftNames room ((entrants.map fun member => Event.joined member.name member.room now) ++
      leavers.map fun member => Event.left member.name member.room now) =
        leavers.map (·.name) := by
  rw [leftNames, List.filterMap_append, filterMap_untold, filterMap_told, List.nil_append]
  · intro member listed
    rw [left member listed, leftName?_left]
  · intro member listed
    rw [entered member listed, leftName?_joined]

-- The users of a member's room change by exactly the names announced to it.
theorem usersIn_of_act {exchange : Exchange} {client : ClientId} {member : Member} (act : Act)
    (sound : exchange.Sound) (found : exchange.hub.member? client = some member)
    (stays : (exchange.step act).hub.isRegistered client = true)
    (admitted : Admits client exchange act) :
    ((exchange.step act).hub.usersIn member.room ++
        leftNames member.room (arrivals client exchange act)).Perm
      (exchange.hub.usersIn member.room ++
        joinedNames member.room (arrivals client exchange act)) := by
  cases act with
  | ask visit now request =>
      have told := notices_of_ask visit now request sound.keyed found stays admitted
      have entered : ∀ entrant ∈ entering member.room exchange (.ask visit now request),
          entrant.room = member.room := by
        intro entrant listed
        simpa using (List.mem_filter.mp listed).2
      have left : ∀ leaver ∈ leaving member.room exchange (.ask visit now request),
          leaver.room = member.room := by
        intro leaver listed
        exact (by simpa using (List.mem_filter.mp listed).2 : _ ∧ _).1
      -- The announcements say the names, and the members that came and went make up the difference.
      have joined_names := told.filterMap (·.joinedName? member.room)
      have left_names := told.filterMap (·.leftName? member.room)
      rw [← joinedNames, ← joinedNames, joinedNames_notices,
        joinedNames_told _ now _ _ entered left] at joined_names
      rw [← leftNames, ← leftNames, leftNames_notices,
        leftNames_told _ now _ _ entered left] at left_names
      have users := usersIn_step member.room (.ask visit now request) sound.keyed
        (step_sound (.ask visit now request) sound).keyed
      exact (left_names.append_left _).trans (users.trans (joined_names.symm.append_left _))
  | arrive newcomer capacity =>
      rw [arrivals_of_quiet client exchange _ (by simp), leftNames_nil, joinedNames_nil, step,
        arrive_hub]
  | reset => contradiction
  | share | release | read | close =>
      rw [arrivals_of_quiet client exchange _ (by simp), leftNames_nil, joinedNames_nil]
      exact List.Perm.refl _

theorem usersIn_of_run {exchange : Exchange} {client : ClientId} {member : Member}
    (acts : List Act) (sound : exchange.Sound)
    (found : exchange.hub.member? client = some member) (stays : Stays client exchange acts)
    (registered : (exchange.run acts).hub.isRegistered client = true)
    (admitted : AdmitsAll client exchange acts) :
    ((exchange.run acts).hub.usersIn member.room ++
        leftNames member.room (received client exchange acts)).Perm
      (exchange.hub.usersIn member.room ++
        joinedNames member.room (received client exchange acts)) := by
  induction acts generalizing exchange with
  | nil => rw [received, leftNames_nil, joinedNames_nil, run_nil]
  | cons act rest ih =>
      have next_registered : (exchange.step act).hub.isRegistered client = true := by
        cases rest with
        | nil => exact registered
        | cons next _ => exact stays.2.1
      obtain ⟨after, next_found⟩ := Hub.member?_of_isRegistered next_registered
      have same := step_member? act found next_found
      have first := usersIn_of_act act sound found next_registered admitted.1
      have later := ih (step_sound act sound) (same ▸ next_found) stays.2 registered admitted.2
      simp only [received, leftNames, joinedNames, List.filterMap_append] at first later ⊢
      rw [List.perm_iff_count] at first later ⊢
      intro name
      have first_count := first name
      have later_count := later name
      simp only [List.count_append, run_cons] at first_count later_count ⊢
      omega

-- A client that asks for a list of users gets it, and nothing else with it.
theorem arrivals_listUsers {exchange : Exchange} {client : ClientId} (visit : Visit)
    (now : Timestamp) (room : String) (sound : exchange.Sound)
    (admitted : Admits client exchange (.ask visit now ⟨client, .listUsers room⟩)) :
    ∃ names, arrivals client exchange (.ask visit now ⟨client, .listUsers room⟩) =
        [.users names] ∧ names.Perm (exchange.hub.usersIn (exchange.hub.roomOrDefault room)) := by
  have answered : addressed client
      (tries visit now exchange ⟨client, .listUsers room⟩) = .users (((visit.arrange
        exchange.hub.members).filter (·.room = exchange.hub.roomOrDefault room)).map (·.name)) ::
          addressed client (farewells visit now
            (carried visit now exchange ⟨client, .listUsers room⟩).hub
            (swept visit now exchange ⟨client, .listUsers room⟩)) := by
    simp [tries, commandTries, addressed_cons]
  have opened : (exchange.mail.box client).isOpen = true := by
    rw [Admits, answered] at admitted
    exact Mailbox.open_of_acceptsAll admitted
  have nobody : swept visit now exchange ⟨client, .listUsers room⟩ = [] := by
    apply swept_of_open sound.swept
    simp [commandTries, opened]
  refine ⟨_, ?_, ((visit.perm exchange.hub.members).filter _).map _⟩
  rw [arrivals_ask, Mailbox.taken_of_acceptsAll _ _ admitted, answered, nobody]
  rfl

/-- Presence can be followed from what a member is told. In each request it is told once of each
other client that enters or leaves its room, and of nobody else; and the users listed to it, with
the names announced since put in and taken out, are those listed to it the next time. -/
theorem presence_followed (config : Config) :
    (∀ acts visit now request client member,
      let before := reached config acts
      let act := Act.ask visit now request
      before.hub.member? client = some member →
      (before.step act).hub.isRegistered client = true →
      Admits client before act →
      (notices (arrivals client before act)).Perm
        (((entering member.room before act).map fun entrant =>
            Event.joined entrant.name entrant.room now) ++
          (leaving member.room before act).map fun leaver =>
            Event.left leaver.name leaver.room now)) ∧
    (∀ earlier between visit₁ now₁ room₁ visit₂ now₂ room₂ client member,
      let start := reached config earlier
      let first := Act.ask visit₁ now₁ ⟨client, .listUsers room₁⟩
      let second := Act.ask visit₂ now₂ ⟨client, .listUsers room₂⟩
      let later := (start.step first).run between
      start.hub.member? client = some member →
      start.hub.roomOrDefault room₁ = member.room →
      later.hub.roomOrDefault room₂ = member.room →
      Stays client start (first :: between ++ [second]) →
      AdmitsAll client start (first :: between ++ [second]) →
      ∃ listed listed_next,
        arrivals client start first = [.users listed] ∧
        arrivals client later second = [.users listed_next] ∧
        (listed_next ++ leftNames member.room
            (received client (start.step first) between)).Perm
          (listed ++ joinedNames member.room
            (received client (start.step first) between))) := by
  constructor
  · intro acts visit now request client member before act found stays admitted
    exact notices_of_ask visit now request (reached_sound config acts).keyed found stays admitted
  · intro earlier between visit₁ now₁ room₁ visit₂ now₂ room₂ client member start first second later
      found asks_here asks_here_again stays admitted
    have sound := reached_sound config earlier
    have later_sound : later.Sound := run_sound between (step_sound first sound)
    obtain ⟨stays_between, registered_later, _⟩ := (stays_append _ _ _ _).mp stays
    obtain ⟨admits_between, admits_second, _⟩ := (admitsAll_append _ _ _ _).mp admitted
    obtain ⟨listed, first_reply, listed_users⟩ :=
      arrivals_listUsers visit₁ now₁ room₁ sound admits_between.1
    obtain ⟨listed_next, second_reply, next_users⟩ :=
      arrivals_listUsers visit₂ now₂ room₂ later_sound admits_second
    have followed := usersIn_of_run (first :: between) sound found stays_between
      registered_later admits_between
    rw [asks_here] at listed_users
    rw [asks_here_again] at next_users
    refine ⟨listed, listed_next, first_reply, second_reply, ?_⟩
    rw [received, first_reply] at followed
    exact (next_users.append_right _).trans (followed.trans (listed_users.symm.append_right _))

theorem presence_followed_of_namesakes :
    let now : Timestamp := ⟨0, 0, by decide, by decide, by decide⟩
    let ann : ClientId := ⟨1⟩
    let bob : ClientId := ⟨2⟩
    let ghost : ClientId := ⟨3⟩
    let earlier : List Act :=
      [.arrive ann 8, .arrive bob 8, .arrive ghost 8,
        .ask .enrolled now ⟨ann, .connect "ann" "den"⟩,
        .ask .enrolled now ⟨bob, .connect "bob" "den"⟩,
        .ask .enrolled now ⟨ann, .post "ann" "hello" ""⟩, .close ghost]
    let joining : Act := .ask .enrolled now ⟨ghost, .connect "bob" "den"⟩
    let listing : Act := .ask .enrolled now ⟨ann, .listUsers "den"⟩
    let between : List Act := [joining, .ask .enrolled now ⟨bob, .disconnect⟩]
    let start := reached .default earlier
    (notices (arrivals ann start joining)).Perm
        [Event.joined "bob" "den" now, Event.left "bob" "den" now] ∧
      ∃ listed listed_next,
        arrivals ann start listing = [.users listed] ∧
        arrivals ann ((start.step listing).run between) listing = [.users listed_next] ∧
        (listed_next ++ ["bob", "bob"]).Perm (listed ++ ["bob"]) := by
  intro now ann bob ghost earlier joining listing between start
  have found : start.hub.member? ann = some ⟨ann, ann, "ann", "den"⟩ := by decide +kernel
  have told := (presence_followed .default).1 earlier .enrolled now
    ⟨ghost, .connect "bob" "den"⟩ ann ⟨ann, ann, "ann", "den"⟩ found (by decide +kernel) (by
      change Mailbox.acceptsAll _ _ = true
      decide +kernel)
  have stays : Stays ann start (listing :: between ++ [listing]) := by
    refine ⟨?_, ?_, ?_, ?_, trivial⟩ <;> decide +kernel
  have admitted : AdmitsAll ann start (listing :: between ++ [listing]) := by
    refine ⟨?_, ?_, ?_, ?_, trivial⟩
    all_goals
      change Mailbox.acceptsAll _ _ = true
      decide +kernel
  obtain ⟨listed, listed_next, reply, next_reply, followed⟩ :=
    (presence_followed .default).2 earlier between .enrolled now "den" .enrolled now "den" ann
      ⟨ann, ann, "ann", "den"⟩ found (by decide +kernel) (by decide +kernel) stays admitted
  have joined : joinedNames "den" (received ann (start.step listing) between) = ["bob"] := by
    decide +kernel
  have left : leftNames "den" (received ann (start.step listing) between) = ["bob", "bob"] := by
    decide +kernel
  rw [joined, left] at followed
  refine ⟨?_, listed, listed_next, reply, next_reply, followed⟩
  have entered : entering "den" start joining = [⟨ghost, ghost, "bob", "den"⟩] := by decide +kernel
  have gone : leaving "den" start joining = [⟨ghost, ghost, "bob", "den"⟩] := by decide +kernel
  rw [entered, gone] at told
  exact told

end Exchange
end ChatRooms
