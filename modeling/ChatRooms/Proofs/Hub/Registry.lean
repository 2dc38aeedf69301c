import ChatRooms.Hub.Exchange
import Mathlib.Data.List.Nodup

/-! The registry seen from one client, and from one room. An identity is registered at most once,
and with the address of its own mailbox, as long as the hub registers only strangers with theirs;
striking one off leaves the others alone. -/
namespace ChatRooms.Hub

/-- Nobody is registered twice, and everybody under the identity of the mailbox whose address is
kept. -/
structure Keyed (hub : Hub) : Prop where
  distinct : (hub.members.map (·.id)).Nodup
  own : ∀ member ∈ hub.members, member.handle = member.id

theorem Keyed.eq_of_id {hub : Hub} (keyed : hub.Keyed) {member other : Member}
    (present : member ∈ hub.members) (other_present : other ∈ hub.members)
    (same : member.id = other.id) : member = other :=
  List.inj_on_of_nodup_map keyed.distinct present other_present same

theorem mem_of_member? {hub : Hub} {id : ClientId} {member : Member}
    (found : hub.member? id = some member) : member ∈ hub.members :=
  List.mem_of_find?_eq_some found

theorem id_of_member? {hub : Hub} {id : ClientId} {member : Member}
    (found : hub.member? id = some member) : member.id = id := by
  simpa using List.find?_some found

theorem isRegistered_iff {hub : Hub} {id : ClientId} :
    hub.isRegistered id = true ↔ ∃ member ∈ hub.members, member.id = id := by
  simp [isRegistered]

theorem isRegistered_eq_isSome (hub : Hub) (id : ClientId) :
    hub.isRegistered id = (hub.member? id).isSome := by
  rw [Bool.eq_iff_iff, isRegistered_iff]
  simp [member?]

theorem member?_eq_none_iff {hub : Hub} {id : ClientId} :
    hub.member? id = none ↔ hub.isRegistered id = false := by
  rw [isRegistered_eq_isSome]
  simp

theorem member?_of_isRegistered {hub : Hub} {client : ClientId}
    (registered : hub.isRegistered client = true) : ∃ member, hub.member? client = some member := by
  rw [Hub.isRegistered_eq_isSome] at registered
  exact Option.isSome_iff_exists.mp registered

theorem member?_of_mem {hub : Hub} {member : Member} (keyed : hub.Keyed)
    (present : member ∈ hub.members) : hub.member? member.id = some member := by
  cases found : hub.member? member.id with
  | none =>
      have absent := List.find?_eq_none.mp found member present
      simp at absent
  | some other =>
      have same : other = member :=
        keyed.eq_of_id (mem_of_member? found) present (id_of_member? found)
      rw [same]

theorem member?_strike (hub : Hub) (id other : ClientId) :
    (hub.strike other).member? id = if id = other then none else hub.member? id := by
  simp only [member?, strike, List.find?_filter]
  by_cases same : id = other
  · simp [same]
  · simp only [same, ↓reduceIte]
    congr 1
    funext member
    by_cases hit : member.id = id <;> simp [hit, same]

theorem member?_enroll (hub : Hub) (member : Member) (id : ClientId)
    (stranger : hub.isRegistered member.id = false) :
    (hub.enroll member).member? id =
      if id = member.id then some member else hub.member? id := by
  have absent := member?_eq_none_iff.mpr stranger
  simp only [member?] at absent
  by_cases same : id = member.id
  · simp [member?, enroll, List.find?_append, same, absent]
  · simp [member?, enroll, List.find?_append, same, Ne.symm same]

theorem Keyed.sublist {hub other : Hub} (keyed : hub.Keyed)
    (fewer : other.members.Sublist hub.members) : other.Keyed where
  distinct := keyed.distinct.sublist (fewer.map _)
  own member present := keyed.own member (fewer.subset present)

theorem keyed_of_nobody {hub : Hub} (nobody : hub.members = []) : hub.Keyed := by
  constructor <;> simp [nobody]

theorem handle_of_member? {hub : Hub} {id : ClientId} {member : Member} (keyed : hub.Keyed)
    (found : hub.member? id = some member) : member.handle = id :=
  (keyed.own member (mem_of_member? found)).trans (id_of_member? found)

theorem strike_keyed {hub : Hub} (id : ClientId) (keyed : hub.Keyed) : (hub.strike id).Keyed :=
  keyed.sublist List.filter_sublist

theorem enroll_keyed {hub : Hub} {member : Member} (keyed : hub.Keyed)
    (stranger : hub.isRegistered member.id = false) (own : member.handle = member.id) :
    (hub.enroll member).Keyed where
  distinct := by
    have apart : ∀ other ∈ hub.members, other.id ≠ member.id := by
      intro other present same
      have registered := isRegistered_iff.mpr ⟨other, present, same⟩
      rw [stranger] at registered
      contradiction
    simp only [enroll, List.map_append, List.map_cons, List.map_nil]
    refine List.nodup_append.mpr ⟨keyed.distinct, by simp, ?_⟩
    intro id present last added
    obtain ⟨other, member_present, rfl⟩ := List.mem_map.mp present
    simpa [added] using fun same =>
      apart other member_present (same.trans (by simpa using added))
  own other present := by
    rcases List.mem_append.mp present with before | added
    · exact keyed.own other before
    · rw [List.mem_singleton.mp added, own]

end ChatRooms.Hub

namespace ChatRooms.Exchange

theorem audience_eq {visit : Visit} {hub : Hub} (keyed : hub.Keyed) (room : String)
    (absent : ClientId) :
    audience visit hub room absent = ((visit.arrange hub.members).filter fun member =>
      member.id ≠ absent && member.room = room).map (·.id) := by
  refine List.map_congr_left fun member listed => keyed.own member ?_
  exact (visit.perm hub.members).mem_iff.mp (List.mem_filter.mp listed).1

theorem mem_audience {visit : Visit} {hub : Hub} {room : String} {absent client : ClientId}
    (keyed : hub.Keyed) :
    client ∈ audience visit hub room absent ↔
      client ≠ absent ∧ ∃ member ∈ hub.members, member.id = client ∧ member.room = room := by
  have visited (member : Member) : member ∈ visit.arrange hub.members ↔ member ∈ hub.members :=
    (visit.perm hub.members).mem_iff
  simp only [audience_eq keyed, List.mem_map, List.mem_filter, visited, Bool.and_eq_true,
    decide_eq_true_eq]
  constructor
  · rintro ⟨member, ⟨present, apart, home⟩, rfl⟩
    exact ⟨apart, member, present, rfl, home⟩
  · rintro ⟨apart, member, present, rfl, home⟩
    exact ⟨member, ⟨present, apart, home⟩, rfl⟩

theorem audience_nodup (visit : Visit) {hub : Hub} (room : String) (absent : ClientId)
    (keyed : hub.Keyed) : (audience visit hub room absent).Nodup := by
  have visited : ((visit.arrange hub.members).map (·.id)).Nodup :=
    (((visit.perm hub.members).map _).nodup_iff).mpr keyed.distinct
  rw [audience_eq keyed]
  exact visited.sublist (List.filter_sublist.map _)

-- A registered client is told what is announced in its own room, unless it is the one absent.
theorem mem_audience_of_member? {visit : Visit} {hub : Hub} {room : String}
    {absent client : ClientId} {member : Member} (keyed : hub.Keyed)
    (found : hub.member? client = some member) :
    client ∈ audience visit hub room absent ↔ client ≠ absent ∧ member.room = room := by
  rw [mem_audience keyed]
  refine and_congr_right fun _ => ⟨?_, ?_⟩
  · rintro ⟨other, present, same, home⟩
    have other_found := Hub.member?_of_mem keyed present
    rw [same, found] at other_found
    cases other_found
    exact home
  · intro home
    exact ⟨member, Hub.mem_of_member? found, Hub.id_of_member? found, home⟩

theorem not_mem_audience_of_stranger {visit : Visit} {hub : Hub} {room : String}
    {absent client : ClientId} (keyed : hub.Keyed) (stranger : hub.member? client = none) :
    client ∉ audience visit hub room absent := by
  intro told
  obtain ⟨_, member, present, same, _⟩ := (mem_audience keyed).mp told
  have registered := Hub.isRegistered_iff.mpr ⟨member, present, same⟩
  rw [Hub.member?_eq_none_iff.mp stranger] at registered
  contradiction

theorem audience_congr {visit : Visit} {hub other : Hub} (room : String) (absent : ClientId)
    (same : hub.members = other.members) :
    audience visit hub room absent = audience visit other room absent := by
  rw [audience, audience, same]

end ChatRooms.Exchange
