import ChatRooms.Proofs.Demo.Sketch

/-! The conversation beat by beat: what is asked of the hub, who goes to another room, who waits for
an event. How many events a user has been told when the hub has carried out everything that was
asked, and how many of them were waited for, is a matter of counting. -/
namespace ChatRooms.Demo

open Sketch

inductive Beat where
  | ask (plea : Plea)
  | enter (role : Role) (place : Place)
  | await (role : Role)
  deriving DecidableEq, Repr

def Beat.plea? : Beat → Option Plea
  | .ask plea => some plea
  | _ => none

def beats : List Beat :=
  [.ask (.connect .alice .hall),
    .ask (.listUsers .alice .hall),
    .await .alice,
    .ask (.connect .bob .hall),
    .await .alice,
    .ask (.post .alice "hello"),
    .await .bob,
    .ask (.post .bob "hey alice"),
    .await .alice,
    .ask (.connect .carol .hall),
    .await .carol,
    .await .carol,
    .await .alice,
    .await .bob,
    .ask (.direct .carol .alice "welcome back?"),
    .await .alice,
    .ask (.listUsers .carol .hall),
    .await .carol,
    .ask (.disconnect .bob),
    .enter .bob .annex,
    .ask (.connect .bob .annex),
    .await .alice,
    .await .carol,
    .ask (.post .bob "anyone here?"),
    .ask (.disconnect .alice),
    .await .carol,
    .ask (.listUsers .carol .hall),
    .await .carol,
    .ask (.disconnect .bob),
    .ask (.disconnect .carol)]

def asked (done : List Beat) : List Plea :=
  done.filterMap Beat.plea?

def awaited (done : List Beat) (role : Role) : Nat :=
  done.count (.await role)

def placeOf (done : List Beat) : Role → Place :=
  done.foldl (fun places beat => match beat with
    | .enter role place => Function.update places role place
    | _ => places) fun _ => .hall

def sketchOf (one : Bool) (depth : Nat) (past : List Plea) : Sketch :=
  past.foldl (Sketch.after one depth) .blank

/-- How far the conversation gets. If a room keeps one message only, the user who joins late is told
one, and the second is waited for in vain. -/
def ending (depth : Nat) : Nat :=
  if depth = 1 then 11 else beats.length

@[simp] theorem asked_append (done more : List Beat) :
    asked (done ++ more) = asked done ++ asked more :=
  List.filterMap_append

@[simp] theorem awaited_append (done more : List Beat) (role : Role) :
    awaited (done ++ more) role = awaited done role + awaited more role :=
  List.count_append

theorem placeOf_enter (done : List Beat) (role : Role) (place : Place) :
    placeOf (done ++ [.enter role place]) = Function.update (placeOf done) role place := by
  simp [placeOf]

theorem sketchOf_append (one : Bool) (depth : Nat) (past : List Plea) (plea : Plea) :
    sketchOf one depth (past ++ [plea]) = (sketchOf one depth past).after one depth plea := by
  simp [sketchOf]

theorem told_le_append (one : Bool) (depth : Nat) (past more : List Plea) (role : Role) :
    (sketchOf one depth past).told role ≤ (sketchOf one depth (past ++ more)).told role := by
  induction more generalizing past with
  | nil => rw [List.append_nil]
  | cons plea more ih =>
      have rest := ih (past ++ [plea])
      rw [sketchOf_append, List.append_assoc] at rest
      exact Nat.le_trans (Nat.le_add_right _ _) rest

section Tables

/-- What is asked for can be done, and little was said before. -/
theorem pleas_granted : ∀ one : Bool, ∀ depth ∈ [1, 2, 3], ∀ count < (asked beats).length,
    ∀ plea ∈ (asked beats)[count]?,
      (sketchOf one depth ((asked beats).take count)).grants plea = true ∧
        (sketchOf one depth ((asked beats).take count)).posts.length ≤ 3 := by
  decide +kernel

/-- There are never more events that were not waited for yet than a mailbox has room for. -/
theorem beats_fit : ∀ one : Bool, ∀ depth ∈ [1, 2, 3], ∀ count < ending depth + 1,
    ∀ role ∈ [Role.alice, .bob, .carol],
      (sketchOf one depth (asked (beats.take count))).told role ≤
        awaited (beats.take count) role + depth + 1 := by
  decide +kernel

/-- What is waited for comes, up to the end. -/
theorem beats_served : ∀ one : Bool, ∀ depth ∈ [1, 2, 3], ∀ count < ending depth,
    ∀ role ∈ [Role.alice, .bob, .carol], beats[count]? = some (.await role) →
      awaited (beats.take count) role <
        (sketchOf one depth (asked (beats.take count))).told role := by
  decide +kernel

theorem ending_unserved : ∀ one : Bool, beats[ending 1]? = some (.await .carol) ∧
    (sketchOf one 1 (asked (beats.take (ending 1)))).told .carol =
      awaited (beats.take (ending 1)) .carol := by
  decide +kernel

end Tables

section Splits

variable {one : Bool} {depth : Nat} {done rest : List Beat} {past waiting : List Plea} {plea : Plea}

theorem users_listed (role : Role) : role ∈ [Role.alice, .bob, .carol] := by
  cases role <;> decide

theorem take_of_script (script : done ++ rest = beats) : beats.take done.length = done := by
  rw [← script, List.take_left]

/-- What the hub carries out next is granted. -/
theorem granted_of_next (deep : depth ∈ [1, 2, 3]) (script : done ++ rest = beats)
    (pleas : asked done = past ++ plea :: waiting) :
    (sketchOf one depth past).grants plea = true ∧ (sketchOf one depth past).posts.length ≤ 3 := by
  have all : asked beats = past ++ plea :: (waiting ++ asked rest) := by
    rw [← script, asked_append, pleas, List.append_assoc, List.cons_append]
  have before : (asked beats).take past.length = past := by rw [all, List.take_left]
  have facts := pleas_granted one depth deep past.length (by simp [all]) plea (by simp [all])
  rwa [before] at facts

/-- It finds room for what it tells anybody. -/
theorem fits_of_next (deep : depth ∈ [1, 2, 3]) (script : done ++ rest = beats)
    (soon : done.length ≤ ending depth) (pleas : asked done = past ++ plea :: waiting)
    (role : Role) :
    (sketchOf one depth (past ++ [plea])).told role ≤ awaited done role + depth + 1 := by
  have whole := beats_fit one depth deep done.length (Nat.lt_succ_of_le soon) role
    (users_listed role)
  rw [take_of_script script, pleas, List.append_cons] at whole
  exact Nat.le_trans (told_le_append one depth (past ++ [plea]) waiting role) whole

theorem served_of_await {role : Role} (deep : depth ∈ [1, 2, 3])
    (script : done ++ .await role :: rest = beats) (soon : done.length < ending depth) :
    awaited done role < (sketchOf one depth (asked done)).told role := by
  have next : beats[done.length]? = some (.await role) := by simp [← script]
  have served := beats_served one depth deep done.length soon role (users_listed role) next
  rwa [take_of_script script] at served

/-- The conversation is over when it comes to its ending, or a user waits for an event that no
request brings. -/
theorem unserved_of_ending (one : Bool) (deep : depth ∈ [1, 2, 3]) (script : done ++ rest = beats)
    (last : done.length = ending depth) : (depth ≠ 1 ∧ rest = []) ∨
      (depth = 1 ∧ ∃ role later, rest = .await role :: later ∧
        (sketchOf one depth (asked done)).told role = awaited done role) := by
  by_cases shallow : depth = 1
  · subst shallow
    obtain ⟨next, told⟩ := ending_unserved one
    rw [← last, take_of_script script] at told
    rw [← last, ← script, List.getElem?_append_right (Nat.le_refl _), Nat.sub_self] at next
    cases rest with
    | nil => simp at next
    | cons beat later =>
        obtain rfl : beat = .await .carol := by simpa using next
        exact Or.inr ⟨rfl, _, _, rfl, told⟩
  · rw [ending, if_neg shallow, ← script, List.length_append] at last
    exact Or.inl ⟨shallow, List.length_eq_zero_iff.mp (by omega)⟩

end Splits

end ChatRooms.Demo
