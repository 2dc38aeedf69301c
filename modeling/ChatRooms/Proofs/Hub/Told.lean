import ChatRooms.Proofs.Hub.Effect

/-! What a registered client is told by each command: of those who enter and leave its room, but
itself, and of what others say there. Letters and user lists carry neither. -/
namespace ChatRooms

def Event.post? : Event → Option Broadcast
  | .broadcast post => some post
  | _ => none

def Event.isNotice : Event → Bool
  | .system _ _ => true
  | _ => false

def broadcasts (events : List Event) : List Broadcast :=
  events.filterMap Event.post?

def notices (events : List Event) : List Event :=
  events.filter Event.isNotice

@[simp] theorem broadcasts_append (first second : List Event) :
    broadcasts (first ++ second) = broadcasts first ++ broadcasts second := by
  simp [broadcasts]

@[simp] theorem notices_append (first second : List Event) :
    notices (first ++ second) = notices first ++ notices second := by
  simp [notices]

@[simp] theorem broadcasts_posts (posts : List Broadcast) :
    broadcasts (posts.map .broadcast) = posts := by
  simp [broadcasts, List.filterMap_map, Function.comp_def, Event.post?]

@[simp] theorem notices_posts (posts : List Broadcast) :
    notices (posts.map .broadcast) = [] := by
  simp [notices, List.filter_map, Function.comp_def, Event.isNotice]

theorem notices_eq_self {events : List Event} (all : ∀ event ∈ events, event.isNotice = true) :
    notices events = events :=
  List.filter_eq_self.mpr all

theorem broadcasts_of_notices {events : List Event}
    (all : ∀ event ∈ events, event.isNotice = true) : broadcasts events = [] := by
  apply List.filterMap_eq_nil_iff.mpr
  intro event listed
  have notice := all event listed
  cases event <;> simp_all [Event.isNotice, Event.post?]

namespace Exchange

variable {hub : Hub} {client : ClientId} {member : Member}

theorem stranger_ne (found : hub.member? client = some member) {sender : ClientId}
    (stranger : hub.isRegistered sender = false) : sender ≠ client := by
  rintro rfl
  rw [Hub.member?_eq_none_iff.mpr stranger] at found
  contradiction

theorem addressed_connect (visit : Visit) (now : Timestamp) (sender : ClientId)
    (user room : String) (keyed : hub.Keyed) (found : hub.member? client = some member) :
    addressed client (commandTries visit now hub ⟨sender, .connect user room⟩) =
      ((entrant? hub ⟨sender, .connect user room⟩).toList.filter (·.room = member.room)).map
        fun entrant => Event.joined entrant.name entrant.room now := by
  unfold commandTries
  cases entering : entrant? hub ⟨sender, .connect user room⟩ with
  | none => rfl
  | some entrant =>
      have fresh := entrant_fresh entering
      have apart : entrant.id ≠ client := stranger_ne found fresh
      have now_keyed := Hub.enroll_keyed keyed fresh (entrant_own entering)
      have still_found : (hub.enroll entrant).member? client = some member := by
        simp [Hub.member?_enroll _ _ _ fresh, Ne.symm apart, found]
      simp only [addressed_append, addressed_to, apart, ↓reduceIte, List.nil_append]
      rw [addressed_fanout _ _ _ (audience_nodup _ _ _ now_keyed)]
      simp only [mem_audience_of_member? now_keyed still_found]
      by_cases home : entrant.room = member.room
      · simp [home, Ne.symm apart]
      · simp [home, Ne.symm home]

theorem addressed_disconnect (visit : Visit) (now : Timestamp) (sender : ClientId)
    (keyed : hub.Keyed) (found : hub.member? client = some member) :
    addressed client (commandTries visit now hub ⟨sender, .disconnect⟩) =
      ((hub.member? sender).toList.filter fun leaver =>
        leaver.room = member.room && leaver.id ≠ client).map
          fun leaver => Event.left leaver.name leaver.room now := by
  unfold commandTries
  cases leaving : hub.member? sender with
  | none => rfl
  | some leaver =>
      simp only [addressed_farewell leaver keyed found]
      by_cases self : leaver.id = client
      · simp [self]
      · by_cases home : leaver.room = member.room
        · simp [self, Ne.symm self, home]
        · simp [home, Ne.symm home]

theorem addressed_post (visit : Visit) (now : Timestamp) (sender : ClientId)
    (user content room : String) (keyed : hub.Keyed)
    (found : hub.member? client = some member) :
    addressed client (commandTries visit now hub ⟨sender, .post user content room⟩) =
      ((said? now hub ⟨sender, .post user content room⟩).toList.filter fun post =>
        post.room = member.room && sender ≠ client).map .broadcast := by
  unfold commandTries
  cases spoken : said? now hub ⟨sender, .post user content room⟩ with
  | none => rfl
  | some post =>
      rw [addressed_fanout _ _ _ (audience_nodup _ _ _ keyed)]
      simp only [mem_audience_of_member? keyed found]
      by_cases self : sender = client
      · simp [self]
      · by_cases home : post.room = member.room
        · simp [self, Ne.symm self, home]
        · simp [home, Ne.symm home]

theorem addressed_direct {visit : Visit} {now : Timestamp} {sender : ClientId}
    {letter : DirectMessage} {event : Event}
    (told : event ∈ addressed client (commandTries visit now hub ⟨sender, .direct letter⟩)) :
    event = .direct { letter with sentAt := now } := by
  rw [mem_addressed] at told
  simp only [commandTries] at told
  split at told
  · contradiction
  · simp only [List.mem_singleton, Prod.mk.injEq] at told
    exact told.2

theorem addressed_listUsers {visit : Visit} {now : Timestamp} {sender : ClientId}
    {room : String} {event : Event}
    (told : event ∈ addressed client (commandTries visit now hub ⟨sender, .listUsers room⟩)) :
    ∃ names, event = .users names := by
  rw [mem_addressed] at told
  simp only [commandTries, List.mem_singleton, Prod.mk.injEq] at told
  exact ⟨_, told.2⟩

theorem farewells_are_notices {visit : Visit} {now : Timestamp} {gone : List Member}
    {event : Event} (told : event ∈ addressed client (farewells visit now hub gone)) :
    event.isNotice = true := by
  obtain ⟨_, _, said⟩ := event_of_mem_farewells (mem_addressed.mp told)
  rw [said]
  rfl

-- A registered client is told the messages that others say in its room.
theorem command_broadcasts (visit : Visit) (now : Timestamp) (request : Request)
    (keyed : hub.Keyed) (found : hub.member? client = some member) :
    broadcasts (addressed client (commandTries visit now hub request)) =
      (said? now hub request).toList.filter fun post =>
        post.room = member.room && request.sender ≠ client := by
  obtain ⟨sender, command⟩ := request
  cases command with
  | connect user room =>
      rw [addressed_connect visit now sender user room keyed found, broadcasts_of_notices]
      · rfl
      · intro event told
        obtain ⟨_, _, rfl⟩ := List.mem_map.mp told
        rfl
  | disconnect =>
      rw [addressed_disconnect visit now sender keyed found, broadcasts_of_notices]
      · rfl
      · intro event told
        obtain ⟨_, _, rfl⟩ := List.mem_map.mp told
        rfl
  | post user content room =>
      rw [addressed_post visit now sender user content room keyed found, broadcasts_posts]
  | direct letter =>
      apply List.filterMap_eq_nil_iff.mpr
      intro event told
      rw [addressed_direct told]
      rfl
  | listUsers room =>
      apply List.filterMap_eq_nil_iff.mpr
      intro event told
      obtain ⟨names, same⟩ := addressed_listUsers told
      rw [same]
      rfl

end Exchange
end ChatRooms
