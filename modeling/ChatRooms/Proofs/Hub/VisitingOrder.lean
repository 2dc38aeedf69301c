import ChatRooms.Proofs.Hub.Comparison

/-! The order in which the members are visited. Whatever it is, the same requests come to the same
answers, the same registry and history, and to mailboxes that differ only in who of those swept away
together is said to have left, and in the order of the names in an answer. -/
namespace ChatRooms

/-- The same event, but for what is not looked at of its timestamp and the order of names. -/
inductive Event.Same (seen : Timestamp → Timestamp) : Event → Event → Prop where
  | stamped (one two : Event) (same : one.restamp seen = two.restamp seen) : Same seen one two
  | users (names names' : List String) (perm : names.Perm names') :
      Same seen (.users names) (.users names')

/-- The same event, or two members of a room that leave it. -/
inductive Event.Alike (seen : Timestamp → Timestamp) : Event → Event → Prop where
  | same (one two : Event) (same : Event.Same seen one two) : Alike seen one two
  | left (name name' room : String) (now now' : Timestamp) (clock : seen now = seen now') :
      Alike seen (Event.left name room now) (Event.left name' room now')

namespace Exchange

/-- A letter is addressed to a name that at most one member has. -/
def Clear (hub : Hub) (request : Request) : Prop :=
  ∀ letter, request.command = .direct letter →
    ∀ one ∈ hub.members, ∀ two ∈ hub.members,
      one.name = letter.recipient → two.name = letter.recipient → one = two

def AllClear : Exchange → List Act → Prop
  | _, [] => True
  | exchange, act :: rest =>
      (∀ visit now request, act = .ask visit now request → Clear exchange.hub request) ∧
        AllClear (exchange.step act) rest

structure Agrees (seen : Timestamp → Timestamp) (left right : Exchange) : Prop where
  defaultRoom : left.hub.defaultRoom = right.hub.defaultRoom
  members : left.hub.members = right.hub.members
  history : left.hub.history.restamp seen = right.hub.history.restamp seen
  mail : left.mail.Matches (Event.Alike seen) (fun _ => True) right.mail
  left_sound : left.Sound
  right_sound : right.Sound
  left_acquainted : left.Acquainted
  right_acquainted : right.Acquainted

variable {seen : Timestamp → Timestamp} {left right : Exchange} {visit visit' : Visit}
  {now now' : Timestamp} {client : ClientId} {request : Request}

theorem same_fanout {hub : Hub} {room : String} {absent : ClientId} {one two : Event}
    (keyed : hub.Keyed) (same : Event.Same seen one two) :
    List.Forall₂ (Event.Same seen)
      (addressed client ((audience visit hub room absent).map (·, one)))
      (addressed client ((audience visit' hub room absent).map (·, two))) := by
  rw [addressed_fanout _ _ _ (audience_nodup visit room absent keyed),
    addressed_fanout _ _ _ (audience_nodup visit' room absent keyed)]
  -- Who is in the audience does not depend on the visit.
  simp only [mem_audience keyed]
  split
  · exact .cons same .nil
  · exact .nil

theorem find?_of_clear (visit visit' : Visit) {members : List Member} {name : String}
    (unique : ∀ one ∈ members, ∀ two ∈ members, one.name = name → two.name = name → one = two) :
    (visit.arrange members).find? (·.name = name) =
      (visit'.arrange members).find? (·.name = name) := by
  have visited (visit : Visit) (member : Member) :
      member ∈ visit.arrange members ↔ member ∈ members := (visit.perm members).mem_iff
  cases found : (visit.arrange members).find? (·.name = name) with
  | none =>
      refine (List.find?_eq_none.mpr fun member present => ?_).symm
      exact List.find?_eq_none.mp found member
        ((visited visit member).mpr ((visited visit' member).mp present))
  | some member =>
      have present := (visited visit member).mp (List.mem_of_find?_eq_some found)
      have named : member.name = name := by simpa using List.find?_some found
      cases found' : (visit'.arrange members).find? (·.name = name) with
      | none =>
          have absent := List.find?_eq_none.mp found' member ((visited visit' member).mpr present)
          simp [named] at absent
      | some other =>
          have other_present := (visited visit' other).mp (List.mem_of_find?_eq_some found')
          have other_named : other.name = name := by simpa using List.find?_some found'
          rw [unique member present other other_present named other_named]

theorem Agrees.member? (agrees : Agrees seen left right) (client : ClientId) :
    left.hub.member? client = right.hub.member? client := by
  rw [Hub.member?, Hub.member?, agrees.members]

theorem Agrees.isRegistered (agrees : Agrees seen left right) (client : ClientId) :
    left.hub.isRegistered client = right.hub.isRegistered client := by
  rw [Hub.isRegistered, Hub.isRegistered, agrees.members]

theorem Agrees.entrant? (agrees : Agrees seen left right) (request : Request) :
    entrant? left.hub request = entrant? right.hub request := by
  simp only [Exchange.entrant?, agrees.isRegistered, Hub.roomOrDefault, agrees.defaultRoom]

theorem Agrees.roster (agrees : Agrees seen left right) (request : Request) :
    roster left.hub request = roster right.hub request := by
  simp only [Exchange.roster, agrees.entrant?, agrees.members]

theorem Agrees.refusal? (agrees : Agrees seen left right) (request : Request) :
    refusal? left.hub request = refusal? right.hub request := by
  simp only [Exchange.refusal?, agrees.isRegistered, agrees.members]

theorem Agrees.recent (agrees : Agrees seen left right) (room : String) :
    (left.hub.history.recent room).map (Broadcast.restamp seen) =
      (right.hub.history.recent room).map (Broadcast.restamp seen) := by
  rw [← History.recent_restamp, ← History.recent_restamp, agrees.history]

theorem Agrees.connect_tries (agrees : Agrees seen left right) (clock : seen now = seen now')
    (sender : ClientId) (user room : String) :
    List.Forall₂ (Event.Same seen)
      (addressed client (commandTries visit now left.hub ⟨sender, .connect user room⟩))
      (addressed client (commandTries visit' now' right.hub ⟨sender, .connect user room⟩)) := by
  simp only [commandTries, agrees.entrant?]
  cases entered : Exchange.entrant? right.hub ⟨sender, .connect user room⟩ with
  | none => exact .nil
  | some member =>
      have members : (left.hub.enroll member).members = (right.hub.enroll member).members := by
        simp only [Hub.enroll, agrees.members]
      have keyed := entrant_keyed agrees.right_sound.keyed entered
      have replayed : List.Forall₂ (Event.Same seen)
          ((left.hub.history.recent member.room).map .broadcast)
          ((right.hub.history.recent member.room).map .broadcast) := by
        rw [List.forall₂_map_left_iff, List.forall₂_map_right_iff]
        exact (forall₂_of_map_eq (agrees.recent member.room)).imp fun one two same =>
          .stamped _ _ (congrArg Event.broadcast same)
      have told : Event.Same seen (Event.joined member.name member.room now)
          (Event.joined member.name member.room now') :=
        .stamped _ _ (by rw [Event.restamp_joined, Event.restamp_joined, clock])
      simp only [addressed_append, addressed_to, audience_congr _ _ members]
      refine List.rel_append ?_ (same_fanout keyed told)
      split
      · exact replayed
      · exact .nil

theorem same_farewell {hub : Hub} (clock : seen now = seen now') (keyed : hub.Keyed)
    (leaver : Member) :
    List.Forall₂ (Event.Same seen) (addressed client (farewell visit now hub leaver))
      (addressed client (farewell visit' now' hub leaver)) := by
  refine same_fanout (Hub.strike_keyed _ keyed) (.stamped _ _ ?_)
  rw [Event.restamp_left, Event.restamp_left, clock]

theorem Agrees.post_tries (agrees : Agrees seen left right) (clock : seen now = seen now')
    (sender : ClientId) (user content room : String) :
    List.Forall₂ (Event.Same seen)
      (addressed client (commandTries visit now left.hub ⟨sender, .post user content room⟩))
      (addressed client (commandTries visit' now' right.hub
        ⟨sender, .post user content room⟩)) := by
  rcases said?_restamp ⟨sender, .post user content room⟩ (agrees.member? sender) clock with
    ⟨silent, silent'⟩ | ⟨post, post', said, said', same, together⟩
  · simp only [commandTries, silent, silent']
    exact .nil
  · simp only [commandTries, said, said', together, audience_congr _ _ agrees.members]
    exact same_fanout agrees.right_sound.keyed (.stamped _ _ (congrArg Event.broadcast same))

/-- A command offers a client the same in both runs. -/
theorem Agrees.command_tries (agrees : Agrees seen left right) (visit visit' : Visit)
    (clock : seen now = seen now') (clear : Clear left.hub request) (client : ClientId) :
    List.Forall₂ (Event.Same seen)
      (addressed client (commandTries visit now left.hub request))
      (addressed client (commandTries visit' now' right.hub request)) := by
  obtain ⟨sender, command⟩ := request
  cases command with
  | connect user room => exact agrees.connect_tries clock sender user room
  | disconnect =>
      simp only [commandTries, agrees.member?]
      cases right.hub.member? sender with
      | none => exact .nil
      | some leaver =>
          simp only [farewell_congr leaver agrees.members]
          exact same_farewell clock agrees.right_sound.keyed leaver
  | post user content room => exact agrees.post_tries clock sender user content room
  | direct letter =>
      simp only [commandTries, ← agrees.members,
        find?_of_clear visit visit' (clear letter rfl)]
      cases (visit'.arrange left.hub.members).find? (·.name = letter.recipient) with
      | none => exact .nil
      | some member =>
          simp only [addressed_cons]
          split
          · exact .cons (.stamped _ _ (by simp [Event.restamp, DirectMessage.restamp, clock])) .nil
          · exact .nil
  | listUsers room =>
      have listed : (((visit.arrange left.hub.members).filter
            (·.room = left.hub.roomOrDefault room)).map (·.name)).Perm
          (((visit'.arrange right.hub.members).filter
            (·.room = right.hub.roomOrDefault room)).map (·.name)) := by
        rw [Hub.roomOrDefault, Hub.roomOrDefault, agrees.defaultRoom, agrees.members]
        exact (((visit.perm _).trans (visit'.perm _).symm).filter _).map _
      simp only [commandTries, addressed_cons]
      split
      · exact .cons (.users _ _ listed) .nil
      · exact .nil

theorem Agrees.swept (agrees : Agrees seen left right) (visit visit' : Visit)
    (clock : seen now = seen now') (clear : Clear left.hub request) :
    (swept visit now left request).Perm (swept visit' now' right request) := by
  have shut (client : ClientId) : left.mail.isShut client = right.mail.isShut client :=
    congrArg (!·) (agrees.mail.box client trivial).opened
  have untold (client : ClientId) :
      addressed client (commandTries visit now left.hub request) = [] ↔
        addressed client (commandTries visit' now' right.hub request) = [] := by
    have lengths := (agrees.command_tries visit visit' clock clear client).length_eq
    rw [← List.length_eq_zero_iff, ← List.length_eq_zero_iff, lengths]
  rw [List.perm_ext_iff_of_nodup (swept_subset visit now left request).2.of_map
    (swept_subset visit' now' right request).2.of_map]
  intro member
  rw [mem_swept visit now request agrees.left_sound.keyed agrees.left_sound.swept,
    mem_swept visit' now' request agrees.right_sound.keyed agrees.right_sound.swept]
  simp only [agrees.roster, shut, ne_eq, untold]

theorem remaining_perm {gone gone' : List Member} (members : List Member)
    (perm : gone.Perm gone') : remaining members gone = remaining members gone' := by
  simp only [remaining, (perm.map (·.id)).mem_iff]

theorem Agrees.departures (agrees : Agrees seen left right) (visit visit' : Visit)
    (clock : seen now = seen now') (clear : Clear left.hub request) (client : ClientId) :
    (departures visit now left request client).Perm
      (departures visit' now' right request client) := by
  unfold Exchange.departures
  rw [agrees.roster]
  cases (Exchange.roster right.hub request).find? (·.id = client) with
  | none => exact .nil
  | some member => exact (agrees.swept visit visit' clock clear).filter _

-- Those who leave are of the room of whoever is told, so any of them is like any other.
theorem Agrees.left_alike (agrees : Agrees seen left right) (visit visit' : Visit)
    (clock : seen now = seen now') (clear : Clear left.hub request) (client : ClientId) :
    List.Forall₂ (Event.Alike seen)
      ((Exchange.departures visit now left request client).map fun leaver =>
        Event.left leaver.name leaver.room now)
      ((Exchange.departures visit' now' right request client).map fun leaver =>
        Event.left leaver.name leaver.room now') := by
  rw [List.forall₂_map_left_iff, List.forall₂_map_right_iff, List.forall₂_iff_zip]
  refine ⟨(agrees.departures visit visit' clock clear client).length_eq, ?_⟩
  intro one two paired
  obtain ⟨one_left, two_left⟩ := List.of_mem_zip paired
  unfold Exchange.departures at one_left two_left
  rw [agrees.roster] at one_left
  cases found : (Exchange.roster right.hub request).find? (·.id = client) with
  | none => simp [found] at one_left
  | some member =>
      simp only [found, Option.elim_some, List.mem_filter, decide_eq_true_eq] at one_left two_left
      rw [one_left.2, two_left.2]
      exact .left _ _ _ _ _ clock

theorem Agrees.apply (agrees : Agrees seen left right) (visit visit' : Visit)
    (clock : seen now = seen now') (clear : Clear left.hub request) :
    Agrees seen (left.apply visit now request).1 (right.apply visit' now' request).1 where
  defaultRoom := by rw [apply_defaultRoom, apply_defaultRoom, agrees.defaultRoom]
  members := by
    rw [apply_members, apply_members, agrees.roster,
      remaining_perm _ (agrees.swept visit visit' clock clear)]
  history := by
    rw [apply_history, apply_history]
    rcases said?_restamp request (agrees.member? _) clock with
      ⟨silent, silent'⟩ | ⟨post, post', said, said', same, -⟩
    · rw [silent, silent']
      exact agrees.history
    · simp only [said, said', Option.elim_some, History.push_restamp, agrees.history, same]
  mail.box client _ := by
    have box := agrees.mail.box client trivial
    rw [apply_box, apply_box]
    cases opened : (left.mail.box client).isOpen with
    | false =>
        rw [Mailbox.putAll_closed _ _ opened, Mailbox.putAll_closed _ _ (box.opened ▸ opened)]
        exact box
    | true =>
        have opened' := box.opened ▸ opened
        simp only [tries, addressed_append,
          addressed_departures visit now request agrees.left_sound opened,
          addressed_departures visit' now' request agrees.right_sound opened']
        refine box.putAll (List.rel_append ?_ (agrees.left_alike visit visit' clock clear client))
        exact (agrees.command_tries visit visit' clock clear client).imp .same
  mail.known client _ := by
    rw [apply_knows visit now request agrees.left_acquainted,
      apply_knows visit' now' request agrees.right_acquainted, agrees.mail.known client trivial,
      agrees.entrant?]
  left_sound := apply_sound visit now request agrees.left_sound
  right_sound := apply_sound visit' now' request agrees.right_sound
  left_acquainted := apply_acquainted visit now request agrees.left_acquainted
  right_acquainted := apply_acquainted visit' now' request agrees.right_acquainted

theorem Agrees.step (agrees : Agrees seen left right) {act act' : Act}
    (matched : Act.Matches seen (fun _ _ => True) act act')
    (clear : ∀ visit now request, act = .ask visit now request → Clear left.hub request) :
    Agrees seen (left.step act) (right.step act') := by
  cases matched with
  | ask visit visit' now now' request _ clock =>
      exact agrees.apply visit visit' clock (clear visit now request rfl)
  | quiet _ quiet =>
      have mail := quiet_matches act quiet agrees.left_acquainted agrees.right_acquainted
        agrees.mail
      have left_sound := step_sound act agrees.left_sound
      have right_sound := step_sound act agrees.right_sound
      have left_acquainted := step_acquainted act agrees.left_acquainted
      have right_acquainted := step_acquainted act agrees.right_acquainted
      rcases quiet_hub act quiet with kept | cleared
      · refine ⟨?_, ?_, ?_, mail, left_sound, right_sound, left_acquainted, right_acquainted⟩
        · rw [kept, kept, agrees.defaultRoom]
        · rw [kept, kept, agrees.members]
        · rw [kept, kept, agrees.history]
      · refine ⟨?_, ?_, ?_, mail, left_sound, right_sound, left_acquainted, right_acquainted⟩
        · simp only [cleared, Hub.reset, agrees.defaultRoom]
        · simp only [cleared, Hub.reset]
        · have capacity := congrArg History.capacity agrees.history
          simpa only [cleared, Hub.reset, History.clear, History.restamp, List.map_nil,
            History.mk.injEq, and_true] using capacity

theorem Agrees.run (agrees : Agrees seen left right) {acts acts' : List Act}
    (matched : List.Forall₂ (Act.Matches seen fun _ _ => True) acts acts')
    (clear : AllClear left acts) : Agrees seen (left.run acts) (right.run acts') := by
  induction matched generalizing left right with
  | nil => exact agrees
  | cons same _ ih => exact ih (agrees.step same clear.1) clear.2

theorem create_agrees (seen : Timestamp → Timestamp) (config : Config) :
    Agrees seen (create config) (create config) where
  defaultRoom := rfl
  members := rfl
  history := rfl
  mail := ⟨fun _ _ => Mailbox.matches_refl (fun event => .same event event (.stamped _ _ rfl)) _,
    fun _ _ => rfl⟩
  left_sound := create_sound config
  right_sound := create_sound config
  left_acquainted _ present := by contradiction
  right_acquainted _ present := by contradiction

-- What is put in a mailbox by one request in the two runs.
theorem Agrees.arrivals (agrees : Agrees seen left right) (visit visit' : Visit)
    (clock : seen now = seen now') (clear : Clear left.hub request) (client : ClientId) :
    ∃ told told' gone gone',
      arrivals client left (.ask visit now request) =
        told ++ gone.map (fun leaver => Event.left leaver.name leaver.room now) ∧
      arrivals client right (.ask visit' now' request) =
        told' ++ gone'.map (fun leaver => Event.left leaver.name leaver.room now') ∧
      List.Forall₂ (Event.Same seen) told told' ∧ gone.length = gone'.length ∧
      gone ⊆ Exchange.swept visit now left request ∧
      gone' ⊆ Exchange.swept visit' now' right request ∧
      (((left.step (.ask visit now request)).mail.box client).isFull = false →
        gone.Perm gone') := by
  have box := agrees.mail.box client trivial
  have offered := agrees.command_tries visit visit' clock clear client
  have leaving := agrees.departures visit visit' clock clear client
  have free := (box.putAll (offered.imp .same)).free
  refine ⟨_, _, _, _, arrivals_departures client visit now request agrees.left_sound,
    arrivals_departures client visit' now' request agrees.right_sound, ?_, ?_,
    fun _ listed => departures_subset _ _ _ _ _ (List.mem_of_mem_take listed),
    fun _ listed => departures_subset _ _ _ _ _ (List.mem_of_mem_take listed), ?_⟩
  · rw [Mailbox.taken_eq_take, Mailbox.taken_eq_take, box.free]
    exact List.forall₂_take _ offered
  · rw [List.length_take, List.length_take, leaving.length_eq, free]
  · intro roomy
    cases opened : (left.mail.box client).isOpen with
    | false =>
        rw [← free, Mailbox.free_of_closed (by rw [Mailbox.putAll_open, opened])]
        exact .nil
    | true =>
        -- All the departures fit, in one run as in the other.
        rw [Exchange.step, apply_box, tries, addressed_append, Mailbox.putAll_append,
          addressed_departures visit now request agrees.left_sound opened] at roomy
        have fits := Mailbox.length_le_free (by rw [Mailbox.putAll_open, opened]) roomy
        rw [List.length_map] at fits
        rw [List.take_of_length_le fits,
          List.take_of_length_le (by rw [← leaving.length_eq, ← free]; exact fits)]
        exact leaving

/-- The order in which the members are visited is immaterial. Two runs on the same requests answer
alike and have the same registry and history. A mailbox holds the like at the same places, and each
request puts the same in it but for the departures of members that are swept away together. -/
theorem visits_immaterial (config : Config) (seen : Timestamp → Timestamp) {acts acts' : List Act}
    (matched : List.Forall₂ (Act.Matches seen fun _ _ => True) acts acts')
    (clear : AllClear (create config) acts) :
    let left := reached config acts
    let right := reached config acts'
    left.hub.members = right.hub.members ∧
    left.hub.history.restamp seen = right.hub.history.restamp seen ∧
    (∀ client, (left.mail.box client).Matches (Event.Alike seen) (right.mail.box client)) ∧
    ∀ visit visit' now now' request, seen now = seen now' → Clear left.hub request →
      (left.apply visit now request).2 = (right.apply visit' now' request).2 ∧
      ∀ client, ∃ told told' gone gone',
        arrivals client left (.ask visit now request) =
          told ++ gone.map (fun leaver => Event.left leaver.name leaver.room now) ∧
        arrivals client right (.ask visit' now' request) =
          told' ++ gone'.map (fun leaver => Event.left leaver.name leaver.room now') ∧
        List.Forall₂ (Event.Same seen) told told' ∧ gone.length = gone'.length ∧
        gone ⊆ swept visit now left request ∧ gone' ⊆ swept visit' now' right request ∧
        (((left.step (.ask visit now request)).mail.box client).isFull = false →
          gone.Perm gone') := by
  intro left right
  have agrees : Agrees seen left right := (create_agrees seen config).run matched clear
  refine ⟨agrees.members, agrees.history, fun client => agrees.mail.box client trivial, ?_⟩
  intro visit visit' now now' request clock request_clear
  refine ⟨?_, agrees.arrivals visit visit' clock request_clear⟩
  rw [apply_answer, apply_answer, agrees.refusal?]

theorem visits_immaterial_of_two_departures :
    let now : Timestamp := ⟨0, 0, by decide, by decide, by decide⟩
    let later : Timestamp := ⟨1, 0, by decide, by decide, by decide⟩
    let backwards : Visit := ⟨List.reverse, fun _ => List.reverse_perm _⟩
    let ann : ClientId := ⟨1⟩
    let bob : ClientId := ⟨2⟩
    let carl : ClientId := ⟨3⟩
    let dan : ClientId := ⟨4⟩
    let letter : DirectMessage := ⟨"ann", "dan", "psst", now⟩
    let acts (visit : Visit) (clock : Timestamp) : List Act :=
      [.arrive ann 8, .arrive bob 8, .arrive carl 8, .arrive dan 8,
        .ask visit clock ⟨ann, .connect "ann" "den"⟩,
        .ask visit clock ⟨bob, .connect "bob" "den"⟩,
        .ask visit clock ⟨carl, .connect "carl" "den"⟩,
        .ask visit clock ⟨dan, .connect "dan" "den"⟩,
        .ask visit clock ⟨ann, .direct letter⟩, .close bob, .close carl]
    let left := reached .default (acts .enrolled now)
    let right := reached .default (acts backwards later)
    let posting : Request := ⟨ann, .post "ann" "hello" ""⟩
    left.hub.members = right.hub.members ∧
      arrivals dan left (.ask .enrolled now posting) =
        [.broadcast ⟨"ann", "hello", "den", now⟩, Event.left "carl" "den" now,
          Event.left "bob" "den" now] ∧
      arrivals dan right (.ask backwards later posting) =
        [.broadcast ⟨"ann", "hello", "den", later⟩, Event.left "bob" "den" later,
          Event.left "carl" "den" later] ∧
      ∃ (told told' : List Event) (gone gone' : List Member),
        arrivals dan left (.ask .enrolled now posting) =
          told ++ gone.map (fun leaver => Event.left leaver.name leaver.room now) ∧
        arrivals dan right (.ask backwards later posting) =
          told' ++ gone'.map (fun leaver => Event.left leaver.name leaver.room later) ∧
        List.Forall₂ (Event.Same fun _ => now) told told' ∧ gone.Perm gone' := by
  intro now later backwards ann bob carl dan letter acts left right posting
  have matched : List.Forall₂ (Act.Matches (fun _ => now) fun _ _ => True)
      (acts .enrolled now) (acts backwards later) := by
    repeat' constructor
    all_goals simp
  have clear : AllClear (create .default) (acts .enrolled now) := by
    refine ⟨?_, ?_, ?_, ?_, ?_, ?_, ?_, ?_, ?_, ?_, ?_, trivial⟩
    all_goals
      intro visit now request same
      cases same
    all_goals
      intro letter asked
      cases asked
    decide +kernel
  obtain ⟨members, _, _, next⟩ := visits_immaterial .default (fun _ => now) matched clear
  obtain ⟨told, told', gone, gone', put, put', same, _, _, _, perm⟩ :=
    (next .enrolled backwards now later posting rfl (by simp [Clear, posting])).2 dan
  exact ⟨members, by decide +kernel, by decide +kernel, told, told', gone, gone', put, put', same,
    perm (by decide +kernel)⟩

end Exchange
end ChatRooms
