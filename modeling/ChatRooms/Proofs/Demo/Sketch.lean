import ChatRooms.Demo
import ChatRooms.Proofs.Server.Replay
import Mathlib.Logic.Function.Basic

/-! A hub on which nobody but the three users is, as far as it matters for how many events each of
them is told: who is in which of two rooms, and how often something was said in each. A request
changes the hub as it changes this sketch of it. -/
namespace ChatRooms.Demo

inductive Place where
  | hall
  | annex
  deriving DecidableEq, Repr

def Place.room (hall : String) : Place → String
  | .hall => hall
  | .annex => "rust"

inductive Plea where
  | connect (role : Role) (place : Place)
  | disconnect (role : Role)
  | post (role : Role) (content : String)
  | direct (role other : Role) (content : String)
  | listUsers (role : Role) (place : Place)
  deriving DecidableEq, Repr

def Plea.role : Plea → Role
  | .connect role _ | .disconnect role | .post role _ | .direct role _ _ | .listUsers role _ => role

def Plea.command (hall : String) (at_ : Timestamp) : Plea → Command
  | .connect role place => .connect role.name (place.room hall)
  | .disconnect _ => .disconnect
  | .post role content => .post role.name content ""
  | .direct role other content => .direct ⟨role.name, other.name, content, at_⟩
  | .listUsers _ place => .listUsers (place.room hall)

def Plea.request (cast : Cast) (hall : String) (at_ : Timestamp) (plea : Plea) : Request :=
  ⟨cast.id plea.role, plea.command hall at_⟩

def Cast.member (cast : Cast) (hall : String) (role : Role) (place : Place) : Member :=
  ⟨cast.id role, cast.id role, role.name, place.room hall⟩

@[simp] theorem Cast.member_id (cast : Cast) (hall : String) (role : Role) (place : Place) :
    (cast.member hall role place).id = cast.id role := rfl

@[simp] theorem Cast.member_handle (cast : Cast) (hall : String) (role : Role) (place : Place) :
    (cast.member hall role place).handle = cast.id role := rfl

@[simp] theorem Cast.member_name (cast : Cast) (hall : String) (role : Role) (place : Place) :
    (cast.member hall role place).name = role.name := rfl

@[simp] theorem Cast.member_room (cast : Cast) (hall : String) (role : Role) (place : Place) :
    (cast.member hall role place).room = place.room hall := rfl

structure Sketch where
  place : Role → Option Place
  posts : List Place
  told : Role → Nat

namespace Sketch

def blank : Sketch := ⟨fun _ => none, [], fun _ => 0⟩

/-- Whether two places are the same room, which all are if the two rooms are one. -/
def alike (one : Bool) (first second : Place) : Bool :=
  one || first = second

def posted (one : Bool) (sketch : Sketch) (place : Place) : Nat :=
  sketch.posts.countP (alike one place)

def hears (one : Bool) (sketch : Sketch) (speaker : Role) (place : Place) (listener : Role) : Nat :=
  if listener ≠ speaker ∧ (sketch.place listener).any (alike one place) then 1 else 0

def tells (one : Bool) (depth : Nat) (sketch : Sketch) (plea : Plea) (listener : Role) : Nat :=
  match plea with
  | .connect role place =>
      if listener = role then min depth (sketch.posted one place)
      else sketch.hears one role place listener
  | .disconnect role | .post role _ =>
      (sketch.place role).elim 0 fun place => sketch.hears one role place listener
  | .direct _ other _ => if listener = other then 1 else 0
  | .listUsers role _ => if listener = role then 1 else 0

def grants (sketch : Sketch) : Plea → Bool
  | .connect role _ => (sketch.place role).isNone
  | .disconnect role | .post role _ | .direct _ role _ => (sketch.place role).isSome
  | .listUsers _ _ => true

def after (one : Bool) (depth : Nat) (sketch : Sketch) (plea : Plea) : Sketch where
  place := match plea with
    | .connect role place => Function.update sketch.place role (some place)
    | .disconnect role => Function.update sketch.place role none
    | _ => sketch.place
  posts := match plea with
    | .post role _ => sketch.posts ++ (sketch.place role).toList
    | _ => sketch.posts
  told listener := sketch.told listener + sketch.tells one depth plea listener

/-- A hub that looks like the sketch. Its history can keep less than was said. -/
structure Depicts (sketch : Sketch) (cast : Cast) (hall : String) (depth : Nat) (hub : Hub) :
    Prop where
  defaultRoom : hub.defaultRoom = hall
  member : ∀ role, hub.member? (cast.id role) = (sketch.place role).map (cast.member hall role)
  only : ∀ id, hub.isRegistered id = true → ∃ role, cast.id role = id
  posts : ∀ place, (hub.history.recent (place.room hall)).length =
    min depth (sketch.posted (hall = "rust") place)

end Sketch

open Sketch

variable {sketch : Sketch} {cast : Cast} {hall : String} {depth : Nat} {hub : Hub} {role : Role}
  {visit : Visit} {now at_ : Timestamp} {plea : Plea}

theorem alike_iff {first second : Place} :
    alike (hall = "rust") first second = true ↔ first.room hall = second.room hall := by
  cases first <;> cases second <;> simp [alike, Place.room, eq_comm]

theorem Role.name_inj {first second : Role} : first.name = second.name ↔ first = second := by
  cases first <;> cases second <;> decide

theorem Sketch.Depicts.stranger (depicts : sketch.Depicts cast hall depth hub)
    (away : sketch.place role = none) : hub.isRegistered (cast.id role) = false := by
  rw [← Hub.member?_eq_none_iff, depicts.member, away]
  rfl

theorem Sketch.Depicts.found (depicts : sketch.Depicts cast hall depth hub) {place : Place}
    (there : sketch.place role = some place) :
    hub.member? (cast.id role) = some (cast.member hall role place) := by
  rw [depicts.member, there]
  rfl

-- Both rooms are named as they are, even if the default room is one without a name.
theorem Sketch.Depicts.roomOrDefault (depicts : sketch.Depicts cast hall depth hub)
    (place : Place) : hub.roomOrDefault (place.room hall) = place.room hall := by
  cases place with
  | hall => simp [Hub.roomOrDefault, depicts.defaultRoom, Place.room]
  | annex => rfl

section Told

variable {exchange : Exchange}

theorem concern_of_commandTries {request : Request} {client : ClientId} {event : Event}
    (keyed : exchange.hub.Keyed)
    (tried : (client, event) ∈ Exchange.commandTries visit now exchange.hub request) :
    exchange.hub.isRegistered client = true ∨ request.sender = client := by
  have reason := Exchange.reason_of_tries keyed (List.mem_append_left _ tried)
  rcases Exchange.concern_of_reason reason with registered | ⟨_, rfl⟩ | ⟨_, _, rfl⟩
  · exact Or.inl registered
  · exact Or.inr rfl
  · exact Or.inr rfl

-- What is said in a room is told to who is there, but not to the speaker.
theorem length_of_heard {speaker listener : Role} (apart : Function.Injective cast.id)
    {place there : Place} {count : Nat} (found : sketch.place listener = some there)
    (heard : count = if (cast.member hall speaker place).room =
        (cast.member hall listener there).room ∧
        (cast.member hall speaker place).id ≠ cast.id listener then 1 else 0) :
    count = sketch.hears (hall = "rust") speaker place listener := by
  rw [heard, hears]
  refine if_congr ?_ rfl rfl
  change place.room hall = there.room hall ∧ cast.id speaker ≠ cast.id listener ↔ _
  rw [found, Option.any_some, alike_iff, apart.ne_iff, ne_comm, and_comm]

theorem length_filter_singleton {α : Type} (p : α → Bool) (x : α) :
    ([x].filter p).length = if p x then 1 else 0 := by
  by_cases holds : p x <;> simp [holds]

theorem told_stranger (plea : Plea) {listener : Role} (apart : Function.Injective cast.id)
    (keyed : exchange.hub.Keyed)
    (depicts : sketch.Depicts cast hall depth exchange.hub) (away : sketch.place listener = none)
    (other : plea.role ≠ listener) : addressed (cast.id listener)
      (Exchange.commandTries visit now exchange.hub (plea.request cast hall at_)) = [] := by
  apply List.eq_nil_iff_forall_not_mem.mpr
  intro event told
  rcases concern_of_commandTries keyed (mem_addressed.mp told) with registered | asked
  · cases registered.symm.trans (depicts.stranger away)
  · exact apart.ne other asked

theorem ne_of_places {first second : Role} {place : Place}
    (here : sketch.place first = some place) (away : sketch.place second = none) :
    first ≠ second := by
  rintro rfl
  cases here.symm.trans away

theorem hears_stranger {one : Bool} {speaker listener : Role} {place : Place}
    (away : sketch.place listener = none) : sketch.hears one speaker place listener = 0 := by
  simp [hears, away]

theorem told_listUsers (apart : Function.Injective cast.id) (listener : Role) (place : Place) :
    (addressed (cast.id listener) (Exchange.commandTries visit now exchange.hub
      ((Plea.listUsers role place).request cast hall at_))).length =
    sketch.tells (hall = "rust") depth (.listUsers role place) listener := by
  rw [Plea.request, Plea.command, Plea.role, Exchange.commandTries, addressed_cons]
  by_cases self : listener = role
  · simp [tells, self]
  · simp [tells, self, apart.ne (Ne.symm self)]

variable (apart : Function.Injective cast.id) (keyed : exchange.hub.Keyed)
  (depicts : sketch.Depicts cast hall depth exchange.hub) (listener : Role)

include apart keyed depicts

theorem told_connect {place : Place} (granted : sketch.grants (.connect role place) = true) :
    (addressed (cast.id listener) (Exchange.commandTries visit now exchange.hub
      ((Plea.connect role place).request cast hall at_))).length =
    sketch.tells (hall = "rust") depth (.connect role place) listener := by
  have absent : sketch.place role = none := by simpa [grants] using granted
  have stranger := depicts.stranger absent
  have entering : Exchange.entrant? exchange.hub ((Plea.connect role place).request cast hall at_) =
      some (cast.member hall role place) := by
    simp [Exchange.entrant?, Plea.request, Plea.command, Plea.role, stranger,
      depicts.roomOrDefault, Cast.member]
  by_cases self : listener = role
  · subst self
    rw [tells, if_pos rfl, ← depicts.posts, Plea.request, Plea.command, Plea.role,
      Exchange.addressed_entrant keyed stranger, depicts.roomOrDefault, List.length_map]
  · rw [tells, if_neg self]
    cases there : sketch.place listener with
    | none =>
        have other : (Plea.connect role place).role ≠ listener := Ne.symm self
        rw [told_stranger _ apart keyed depicts there other, hears_stranger there]
        rfl
    | some home =>
        refine length_of_heard apart there ?_
        have told := Exchange.addressed_connect visit now (cast.id role) role.name (place.room hall)
          keyed (depicts.found there)
        rw [Plea.request, Plea.command, Plea.role] at entering ⊢
        rw [told, entering, Option.toList_some, List.length_map, length_filter_singleton]
        have other : (cast.member hall role place).id ≠ cast.id listener := apart.ne (Ne.symm self)
        simp only [decide_eq_true_eq, other, ne_eq, not_false_eq_true, and_true]

theorem told_disconnect (granted : sketch.grants (.disconnect role) = true) :
    (addressed (cast.id listener) (Exchange.commandTries visit now exchange.hub
      ((Plea.disconnect role).request cast hall at_))).length =
    sketch.tells (hall = "rust") depth (.disconnect role) listener := by
  obtain ⟨place, here⟩ := Option.isSome_iff_exists.mp granted
  rw [tells, here, Option.elim_some]
  cases there : sketch.place listener with
  | none =>
      rw [told_stranger (.disconnect role) apart keyed depicts there (ne_of_places here there),
        hears_stranger there]
      rfl
  | some home =>
      refine length_of_heard apart there ?_
      have told := Exchange.addressed_disconnect visit now (cast.id role) keyed
        (depicts.found there)
      rw [Plea.request, Plea.command, Plea.role, told, depicts.found here, Option.toList_some,
        List.length_map, length_filter_singleton]
      simp only [Bool.and_eq_true, decide_eq_true_eq]

theorem told_post {content : String} (granted : sketch.grants (.post role content) = true) :
    (addressed (cast.id listener) (Exchange.commandTries visit now exchange.hub
      ((Plea.post role content).request cast hall at_))).length =
    sketch.tells (hall = "rust") depth (.post role content) listener := by
  obtain ⟨place, here⟩ := Option.isSome_iff_exists.mp granted
  rw [tells, here, Option.elim_some]
  cases there : sketch.place listener with
  | none =>
      rw [told_stranger (.post role content) apart keyed depicts there (ne_of_places here there),
        hears_stranger there]
      rfl
  | some home =>
      refine length_of_heard apart there ?_
      have told := Exchange.addressed_post visit now (cast.id role) role.name content "" keyed
        (depicts.found there)
      have spoken : Exchange.said? now exchange.hub ⟨cast.id role, .post role.name content ""⟩ =
          some ⟨role.name, content, (cast.member hall role place).room, now⟩ := by
        simp [Exchange.said?, depicts.found here]
      rw [Plea.request, Plea.command, Plea.role, told, spoken, Option.toList_some,
        List.length_map, length_filter_singleton]
      simp only [Bool.and_eq_true, decide_eq_true_eq]
      rfl

theorem told_direct {other : Role} {content : String}
    (granted : sketch.grants (.direct role other content) = true) :
    (addressed (cast.id listener) (Exchange.commandTries visit now exchange.hub
      ((Plea.direct role other content).request cast hall at_))).length =
    sketch.tells (hall = "rust") depth (.direct role other content) listener := by
  obtain ⟨place, here⟩ := Option.isSome_iff_exists.mp granted
  have listed := Hub.mem_of_member? (depicts.found here)
  have found : (visit.arrange exchange.hub.members).find? (·.name = other.name) =
      some (cast.member hall other place) := by
    cases first : (visit.arrange exchange.hub.members).find? (·.name = other.name) with
    | none =>
        have nobody := List.find?_eq_none.mp first _ ((visit.perm _).mem_iff.mpr listed)
        simp at nobody
    | some member =>
        have present := (visit.perm _).mem_iff.mp (List.mem_of_find?_eq_some first)
        have named : member.name = other.name := by simpa using List.find?_some first
        have registered := Hub.member?_of_mem keyed present
        obtain ⟨same, self⟩ := depicts.only member.id (Hub.isRegistered_iff.mpr ⟨_, present, rfl⟩)
        rw [← self, depicts.member] at registered
        obtain ⟨home, there, rfl⟩ := Option.map_eq_some_iff.mp registered
        obtain rfl := Role.name_inj.mp named
        rw [here] at there
        cases there
        rfl
  rw [Plea.request, Plea.command, Plea.role, Exchange.commandTries]
  dsimp only
  rw [found, addressed_cons]
  by_cases self : listener = other
  · simp [tells, self]
  · simp [tells, self, apart.ne (Ne.symm self)]

/-- A user is told as many events as the sketch says. -/
theorem told_of_depicts (granted : sketch.grants plea = true) :
    (addressed (cast.id listener) (Exchange.commandTries visit now exchange.hub
      (plea.request cast hall at_))).length =
    sketch.tells (hall = "rust") depth plea listener := by
  cases plea with
  | connect role place => exact told_connect apart keyed depicts listener granted
  | disconnect role => exact told_disconnect apart keyed depicts listener granted
  | post role content => exact told_post apart keyed depicts listener granted
  | direct role other content => exact told_direct apart keyed depicts listener granted
  | listUsers role place => exact told_listUsers apart listener place

end Told

section After

variable {exchange : Exchange}

theorem entrant?_of_depicts (depicts : sketch.Depicts cast hall depth hub)
    (granted : sketch.grants plea = true) :
    Exchange.entrant? hub (plea.request cast hall at_) = match plea with
      | .connect role place => some (cast.member hall role place)
      | _ => none := by
  cases plea with
  | connect role place =>
      have absent : sketch.place role = none := by simpa [grants] using granted
      simp [Exchange.entrant?, Plea.request, Plea.command, Plea.role, depicts.stranger absent,
        depicts.roomOrDefault, Cast.member]
  | disconnect | post | direct | listUsers => rfl

theorem said?_of_depicts (now at_ : Timestamp)
    (depicts : sketch.Depicts cast hall depth hub)
    (granted : sketch.grants plea = true) :
    (Exchange.said? now hub (plea.request cast hall at_)).map (·.room) = match plea with
      | .post role _ => (sketch.place role).map (·.room hall)
      | _ => none := by
  cases plea with
  | post role content =>
      obtain ⟨place, here⟩ := Option.isSome_iff_exists.mp granted
      simp [Exchange.said?, Plea.request, Plea.command, Plea.role, depicts.found here, here]
  | connect | disconnect | direct | listUsers => rfl

-- The users are all there is, and their mailboxes are open.
theorem swept_of_depicts (depicts : sketch.Depicts cast hall depth exchange.hub)
    (sound : exchange.Sound) (opened : ∀ role, (exchange.mail.box (cast.id role)).isOpen = true) :
    Exchange.swept visit now exchange (plea.request cast hall at_) = [] := by
  refine Exchange.swept_of_open sound.swept fun delivery tried => ?_
  rcases concern_of_commandTries sound.keyed tried with registered | asked
  · obtain ⟨role, self⟩ := depicts.only _ registered
    exact self ▸ opened role
  · exact asked ▸ opened plea.role

section Applied

variable (one : Bool) (depth' : Nat) (apart : Function.Injective cast.id)
  (depicts : sketch.Depicts cast hall depth exchange.hub) (granted : sketch.grants plea = true)

include depicts granted

include apart in
theorem member_of_applied
    (nobody : Exchange.swept visit now exchange (plea.request cast hall at_) = []) (role : Role) :
    (exchange.apply visit now (plea.request cast hall at_)).1.hub.member? (cast.id role) =
      ((sketch.after one depth' plea).place role).map (cast.member hall role) := by
  rw [Exchange.apply_member?, nobody, entrant?_of_depicts depicts granted, depicts.member]
  cases plea with
  | connect other place =>
      have absent : sketch.place other = none := by simpa [grants] using granted
      by_cases same : role = other
      · subst same
        simp [Plea.request, Plea.command, Sketch.after, absent, Option.filter]
      · simp [Plea.request, Plea.command, Sketch.after, Function.update_of_ne same,
          Option.filter, apart.ne (Ne.symm same)]
  | disconnect other =>
      by_cases same : role = other
      · subst same
        simp [Plea.request, Plea.command, Plea.role, Sketch.after]
      · simp [Plea.request, Plea.command, Plea.role, Sketch.after, Function.update_of_ne same,
          apart.ne (Ne.symm same)]
  | post | direct | listUsers => simp [Plea.request, Plea.command, Sketch.after]

theorem posts_of_applied (kept : exchange.hub.history.capacity = depth) (place : Place) :
    ((exchange.apply visit now (plea.request cast hall at_)).1.hub.history.recent
      (place.room hall)).length =
      min depth ((sketch.after one depth' plea).posted (hall = "rust") place) := by
  have room := said?_of_depicts now at_ depicts granted
  have before := depicts.posts place
  rw [Exchange.apply_history]
  cases spoken : Exchange.said? now exchange.hub (plea.request cast hall at_) with
  | none =>
      rw [spoken] at room
      have silent : (sketch.after one depth' plea).posts = sketch.posts := by
        cases plea with
        | post role content =>
            obtain ⟨there, here⟩ := Option.isSome_iff_exists.mp granted
            simp [here] at room
        | connect | disconnect | direct | listUsers => rfl
      rw [posted, silent]
      exact before
  | some post =>
      rw [spoken] at room
      cases plea with
      | post role content =>
          obtain ⟨there, here⟩ := Option.isSome_iff_exists.mp granted
          simp only [here, Option.map_some, Option.some.injEq] at room
          have more :
              posted (hall = "rust") (sketch.after one depth' (.post role content)) place =
              posted (hall = "rust") sketch place +
                if alike (hall = "rust") place there then 1 else 0 := by
            simp [posted, Sketch.after, here, List.countP_append, List.countP_singleton]
          rw [Option.elim_some, History.recent_push, room, more]
          by_cases same : place.room hall = there.room hall
          · rw [if_pos same, if_pos (alike_iff.mpr same), History.length_trimmed_eq,
              List.length_append, before, kept, List.length_singleton]
            omega
          · rw [if_neg same, if_neg (mt alike_iff.mp same), before, Nat.add_zero]
      | connect | disconnect | direct | listUsers => cases room

include apart in
/-- The hub looks like the sketch again when it has carried out the request. -/
theorem Sketch.Depicts.apply (kept : exchange.hub.history.capacity = depth)
    (nobody : Exchange.swept visit now exchange (plea.request cast hall at_) = []) :
    (sketch.after one depth' plea).Depicts cast hall depth
      (exchange.apply visit now (plea.request cast hall at_)).1.hub where
  defaultRoom := by rw [Exchange.apply_defaultRoom, depicts.defaultRoom]
  member := member_of_applied one depth' apart depicts granted nobody
  only id registered := by
    rcases Exchange.apply_registered registered with before | self
    · exact depicts.only id before
    · exact ⟨_, self⟩
  posts := posts_of_applied one depth' depicts granted kept

end Applied

end After

-- A history that keeps more than was ever said keeps all of it.
theorem tells_depth {one : Bool} {many : Nat} (few : sketch.posts.length ≤ many) (listener : Role) :
    sketch.tells one depth plea listener = sketch.tells one (min depth many) plea listener := by
  have most (place : Place) : sketch.posted one place ≤ many :=
    Nat.le_trans List.countP_le_length few
  cases plea with
  | connect role place =>
      have bound := most place
      simp only [tells]
      split
      · omega
      · rfl
  | disconnect | post | direct | listUsers => rfl

end ChatRooms.Demo
