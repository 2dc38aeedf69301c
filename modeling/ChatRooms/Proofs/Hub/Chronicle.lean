import ChatRooms.Proofs.Hub.Stream
import Mathlib.Data.List.Dedup

/-! The history of the rooms against a log that drops nothing until it is cleared. Whatever is done
to a history, it has of each room the end of the log, as much of it as the capacity allows, and
knows each room of the log. The history of a hub is made by the messages that the hub accepts. -/
namespace ChatRooms

namespace History

inductive Edit where
  | push (post : Broadcast)
  | clear

def edit (history : History) : Edit → History
  | .push post => history.push post
  | .clear => history.clear

def editAll (history : History) (edits : List Edit) : History :=
  edits.foldl edit history

def note (log : List Broadcast) : Edit → List Broadcast
  | .push post => log ++ [post]
  | .clear => []

def logged (edits : List Edit) : List Broadcast :=
  edits.foldl note []

def saidIn (room : String) (log : List Broadcast) : List Broadcast :=
  log.filter (·.room = room)

/-- A history has of each room the end of what a log has, up to its capacity, and each room of the
log once. -/
structure Abridges (history : History) (log : List Broadcast) : Prop where
  ending : ∀ room, history.recent room <:+ saidIn room log
  length : ∀ room, (history.recent room).length =
    min (saidIn room log).length history.capacity
  once : (history.rooms.map (·.1)).Nodup
  known : ∀ room, room ∈ history.rooms.map (·.1) ↔ room ∈ log.map (·.room)

variable {history : History} {log : List Broadcast}

theorem empty_abridges (capacity : Nat) : (empty capacity).Abridges [] where
  ending _ := List.suffix_rfl
  length _ := (Nat.zero_min capacity).symm
  once := List.nodup_nil
  known _ := Iff.rfl

theorem clear_abridges (history : History) : history.clear.Abridges [] where
  ending _ := List.suffix_rfl
  length _ := (Nat.zero_min history.capacity).symm
  once := List.nodup_nil
  known _ := Iff.rfl

theorem saidIn_append (room : String) (log : List Broadcast) (post : Broadcast) :
    saidIn room (log ++ [post]) =
      saidIn room log ++ if room = post.room then [post] else [] := by
  by_cases same : room = post.room
  · simp [saidIn, same]
  · simp [saidIn, same, Ne.symm same]

theorem mem_rooms_push (history : History) (post : Broadcast) (room : String) :
    room ∈ (history.push post).rooms.map (·.1) ↔
      room = post.room ∨ room ∈ history.rooms.map (·.1) := by
  by_cases same : room = post.room
  · simp [push, same]
  · simp [push, same]

theorem Abridges.push (abridges : history.Abridges log) (post : Broadcast) :
    (history.push post).Abridges (log ++ [post]) where
  ending room := by
    rw [recent_push, saidIn_append]
    split
    · obtain ⟨dropped, whole⟩ := abridges.ending room
      have longer : history.recent room ++ [post] <:+ saidIn room log ++ [post] :=
        ⟨dropped, by rw [← whole, List.append_assoc]⟩
      exact (List.drop_suffix _ _).trans longer
    · rw [List.append_nil]
      exact abridges.ending room
  length room := by
    have before := abridges.length room
    rw [recent_push, saidIn_append]
    split
    · simp only [trimmed, List.length_drop, List.length_append, List.length_singleton, before,
        History.push]
      omega
    · rw [List.append_nil]
      exact before
  once := by
    have others : ((history.rooms.filter (·.1 ≠ post.room)).map (·.1)).Nodup :=
      abridges.once.sublist (List.filter_sublist.map _)
    refine List.nodup_cons.mpr ⟨?_, others⟩
    simp
  known room := by
    rw [mem_rooms_push, abridges.known]
    simp [or_comm]

/-- Nothing that is done to a history makes it have anything but the end of the log. -/
theorem Abridges.edit (abridges : history.Abridges log) (change : Edit) :
    (history.edit change).Abridges (note log change) := by
  cases change with
  | push post => exact abridges.push post
  | clear => exact clear_abridges history

theorem editAll_abridges (capacity : Nat) (edits : List Edit) :
    ((empty capacity).editAll edits).Abridges (logged edits) := by
  induction edits using List.reverseRecOn with
  | nil => exact empty_abridges capacity
  | append_singleton edits change ih =>
      simp only [editAll, logged, List.foldl_append] at ih ⊢
      exact ih.edit change

theorem editAll_capacity (history : History) (edits : List Edit) :
    (history.editAll edits).capacity = history.capacity := by
  induction edits generalizing history with
  | nil => rfl
  | cons change rest ih =>
      have kept : (history.edit change).capacity = history.capacity := by
        cases change <;> rfl
      exact (ih (history.edit change)).trans kept

theorem Abridges.roomCount (abridges : history.Abridges log) :
    history.roomCount = (log.map (·.room)).dedup.length := by
  have same : (history.rooms.map (·.1)).Perm (log.map (·.room)).dedup := by
    refine (List.perm_ext_iff_of_nodup abridges.once (List.nodup_dedup _)).mpr fun room => ?_
    rw [abridges.known, List.mem_dedup]
  rw [History.roomCount, ← same.length_eq, List.length_map]

end History

namespace Exchange

def edits (exchange : Exchange) : Act → List History.Edit
  | .reset => [.clear]
  | act => (exchange.accepted? act).toList.map fun spoken => .push spoken.2

def chronicle : Exchange → List Act → List History.Edit
  | _, [] => []
  | exchange, act :: rest => edits exchange act ++ chronicle (exchange.step act) rest

theorem step_history (exchange : Exchange) (act : Act) :
    (exchange.step act).hub.history = exchange.hub.history.editAll (edits exchange act) := by
  cases act with
  | ask visit now request =>
      simp only [step, apply_history, edits, accepted?_ask]
      cases said? now exchange.hub request <;> rfl
  | arrive newcomer capacity => rw [step, arrive_hub]; rfl
  | reset | share | release | read | close => rfl

theorem run_history (exchange : Exchange) (acts : List Act) :
    (exchange.run acts).hub.history =
      exchange.hub.history.editAll (chronicle exchange acts) := by
  induction acts generalizing exchange with
  | nil => rfl
  | cons act rest ih =>
      rw [run_cons, ih, step_history]
      simp [chronicle, History.editAll]

-- A request adds to the history exactly if it is a message that is accepted.
theorem ask_history (exchange : Exchange) (visit : Visit) (now : Timestamp)
    (request : Request) :
    (∃ claimed content room member, request.command = .post claimed content room ∧
        exchange.hub.member? request.sender = some member ∧
        (exchange.apply visit now request).2 = .ok () ∧
        (exchange.apply visit now request).1.hub.history = exchange.hub.history.push
          ⟨member.name, content, if room.isEmpty then member.room else room, now⟩) ∨
      ((∀ claimed content room, request.command = .post claimed content room →
          (exchange.apply visit now request).2 ≠ .ok ()) ∧
        (exchange.apply visit now request).1.hub.history = exchange.hub.history) := by
  rw [apply_history]
  cases spoken : said? now exchange.hub request with
  | some post =>
      obtain ⟨claimed, content, room, member, asked, found, rfl⟩ := said?_eq_some spoken
      exact Or.inl ⟨claimed, content, room, member, asked, found, apply_of_said spoken, rfl⟩
  | none =>
      refine Or.inr ⟨fun claimed content room asked => ?_, rfl⟩
      have stranger : exchange.hub.member? request.sender = none := by
        simpa [said?, asked] using spoken
      simp [apply_answer, refusal?, asked, Hub.member?_eq_none_iff.mp stranger]

/-- A history is the end of a log: whatever was pushed and cleared, each room has the last messages
of those pushed to it since the history was cleared, as many as there are or the capacity allows, in
order; and each room pushed to since is counted, even when nothing is kept. The history of a hub is
made by the messages that it accepts, and by nothing else that it is asked. -/
theorem history_abridges_log (capacity : Nat) (edits : List History.Edit) (config : Config)
    (acts : List Act) :
    (let history := (History.empty capacity).editAll edits
      let log := History.logged edits
      (∀ room, history.recent room <:+ History.saidIn room log ∧
        (history.recent room).length = min (History.saidIn room log).length capacity ∧
        history.count room = (history.recent room).length ∧ history.count room ≤ capacity) ∧
      (∀ post room, room ≠ post.room →
        (history.push post).recent room = history.recent room) ∧
      history.roomCount = (log.map (·.room)).dedup.length) ∧
    let before := reached config acts
    before.hub.history =
        (History.empty config.historySize).editAll (chronicle (create config) acts) ∧
      ∀ visit now request,
        let after := (before.apply visit now request).1
        let answer := (before.apply visit now request).2
        (∃ claimed content room member, request.command = .post claimed content room ∧
          before.hub.member? request.sender = some member ∧ answer = .ok () ∧
          after.hub.history = before.hub.history.push
            ⟨member.name, content, if room.isEmpty then member.room else room, now⟩) ∨
        ((∀ claimed content room, request.command = .post claimed content room →
          answer ≠ .ok ()) ∧ after.hub.history = before.hub.history) := by
  constructor
  · intro history log
    have abridges : history.Abridges log := History.editAll_abridges capacity edits
    have settled : history.capacity = capacity := History.editAll_capacity _ _
    refine ⟨fun room => ?_, fun post room other => ?_, abridges.roomCount⟩
    · have length := abridges.length room
      rw [settled] at length
      refine ⟨abridges.ending room, length, rfl, ?_⟩
      rw [History.count, length]
      exact Nat.min_le_right _ _
    · rw [History.recent_push, if_neg other]
  · exact ⟨run_history (create config) acts, ask_history (reached config acts)⟩

-- Nothing is kept of the two rooms that are known, and the one before them is not known any more.
theorem history_abridges_log_of_no_capacity :
    let now : Timestamp := ⟨0, 0, by decide, by decide, by decide⟩
    let post (room : String) : Broadcast := ⟨"ann", "hello", room, now⟩
    let edits : List History.Edit :=
      [.push (post "attic"), .clear, .push (post "den"), .push (post "hall"), .push (post "den")]
    let kept := (History.empty 0).editAll edits
    let ann : ClientId := ⟨1⟩
    let acts : List Act := [.arrive ann 8, .ask .enrolled now ⟨ann, .connect "ann" "den"⟩]
    let before := reached .default acts
    let told := (before.apply .enrolled now ⟨ann, .post "anna" "hello" ""⟩).1
    kept.recent "den" = [] ∧ kept.roomCount = 2 ∧
      "hall" ≠ (post "den").room ∧ (kept.push (post "den")).recent "hall" = kept.recent "hall" ∧
      told.hub.history = before.hub.history.push (post "den") := by
  intro now post edits kept ann acts before told
  obtain ⟨⟨each, others, rooms⟩, -, asked⟩ :=
    history_abridges_log 0 edits .default acts
  refine ⟨?_, rooms.trans (by decide), by decide, others (post "den") "hall" (by decide), ?_⟩
  · exact List.eq_nil_of_length_eq_zero (Nat.le_zero.mp (each "den").2.2.2)
  · rcases asked .enrolled now ⟨ann, .post "anna" "hello" ""⟩ with
      ⟨claimed, content, room, member, same, found, -, added⟩ | ⟨refused, -⟩
    · have registered : before.hub.member? ann = some ⟨ann, ann, "ann", "den"⟩ := by decide +kernel
      have self : member = ⟨ann, ann, "ann", "den"⟩ := Option.some.inj (found.symm.trans registered)
      obtain ⟨-, rfl, rfl⟩ := Command.post.inj same
      rw [added, self]
      rfl
    · exact absurd (by decide +kernel) (refused "anna" "hello" "" rfl)

end Exchange
end ChatRooms
