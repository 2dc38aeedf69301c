import ChatRooms.Proofs.Terminal.Rendition

/-! What a console reads. The lines that it turns to are those of its input, in their order and
each once; it turns to the end of the input when all of them are read, and to nothing after that
or after a line that quits. -/
namespace ChatRooms.Terminal

theorem finish_notMem_writeLine (text : String) : .finish ∉ writeLine text := by
  simp [writeLine]

theorem finish_notMem_wishTasks (session : Session) (now : Timestamp) (wish : Wish) :
    .finish ∉ wishTasks session now wish := by
  simp [wishTasks]

theorem finish_notMem_promptTasks (mode : Mode) : .finish ∉ promptTasks mode := by
  cases mode <;> simp [promptTasks]

theorem finish_notMem_eventTasks (session : Session) (event : Event) (mode : Mode) :
    .finish ∉ eventTasks session event mode := by
  cases mode <;> simp [eventTasks, writeLine]

theorem finish_mem_lineTasks {octets : List UInt8} {line : String} (session : Session)
    (mode : Mode) (now : Timestamp) (decoded : Text.Utf8.decode octets = .ok line) :
    .finish ∈ lineTasks session mode now (stripLineEnd line) ↔
      Item.isFinal (.line octets) = true := by
  have means : entryOf octets = .ok (Entry.parse (stripLineEnd line)) := by
    rw [entryOf, decoded]
    rfl
  rw [lineTasks, Item.isFinal, means]
  cases parsed : Entry.parse (stripLineEnd line) with
  | error reason => simp [finish_notMem_writeLine, finish_notMem_promptTasks]
  | ok entry =>
      cases entry <;> simp [leaveTasks, entryTasks, finish_notMem_writeLine,
        finish_notMem_wishTasks, finish_notMem_promptTasks]

namespace Console

variable {console next : Console} {happening : Happening} {input left : List UInt8}
  {items : List Item}

/-- A console that has turned to these items, when so much of its input has not arrived. What it has
read is what it turned to; and it turns to nothing after the last item. -/
structure Follows (console : Console) (input left : List UInt8) (items : List Item) : Prop where
  lines : lines input = items.filterMap Item.line? ++ lines (console.pending ++ left)
  dry : console.inputEnded = true → left = []
  spent : .close ∈ items → console.pending = [] ∧ console.inputEnded = true
  before : ∀ item ∈ items.dropLast, item.isFinal = false
  leaves : (∃ item ∈ items, item.isFinal = true) →
    console.outcome ≠ none ∨ .finish ∈ console.tasks
  last : console.outcome = some (.ok ()) ∨ .finish ∈ console.tasks →
    items.getLast?.any Item.isFinal = true

theorem create_follows (session : Session) (now : Timestamp) (input : List UInt8) :
    (create session .text .unlimited now).Follows input input [] where
  lines := rfl
  dry := by simp [create]
  spent := by simp
  before := by simp
  leaves := by simp
  last := by simp [create, finish_notMem_wishTasks, finish_notMem_writeLine]

-- As long as a console has nothing to do it has not turned to a last item.
theorem Follows.ready (follows : console.Follows input left items)
    (ready : console.isReady = true) : ∀ item ∈ items, item.isFinal = false := by
  obtain ⟨running, nothing⟩ := isReady_iff.mp ready
  intro item listed
  by_contra final
  rcases follows.leaves ⟨item, listed, (Bool.not_eq_false _).mp final⟩ with ended | leaving
  · exact ended running
  · simp [nothing] at leaving

theorem Follows.turn {item : Item} (follows : console.Follows input left items)
    (ready : console.isReady = true) (ended : next.inputEnded = console.inputEnded)
    (lines : Terminal.lines (console.pending ++ left) =
      item.line?.toList ++ Terminal.lines (next.pending ++ left))
    (spent : item = .close → next.pending = [] ∧ next.inputEnded = true)
    (leaves : item.isFinal = true → .finish ∈ next.tasks)
    (last : next.outcome = some (.ok ()) ∨ .finish ∈ next.tasks → item.isFinal = true) :
    next.Follows input left (items ++ [item]) := by
  have earlier := follows.ready ready
  refine ⟨?_, ended ▸ follows.dry, fun listed => ?_, ?_, ?_, fun dry => ?_⟩
  · rw [follows.lines, lines, List.filterMap_append, List.append_assoc]
    cases found : item.line? <;> simp [found]
  · rcases List.mem_append.mp listed with before | here
    · cases earlier .close before
    · exact spent (List.mem_singleton.mp here).symm
  · rw [List.dropLast_concat]
    exact earlier
  · rintro ⟨other, listed, final⟩
    rcases List.mem_append.mp listed with before | here
    · cases (earlier other before).symm.trans final
    · exact Or.inr (leaves (List.mem_singleton.mp here ▸ final))
  · simpa using last dry

theorem Follows.read {now : Timestamp} (follows : console.Follows input left items)
    (ready : console.isReady = true) (reads : console.readLine? now = some next) :
    next.Follows input left (items ++ console.offered) := by
  have running := (isReady_iff.mp ready).1
  unfold offered
  cases readsTo_of_readLine? reads with
  | ended found =>
      rw [found]
      exact follows.turn ready rfl rfl (fun _ => nextInput_ended found)
        (fun _ => by simp [leaveTasks]) fun _ => rfl
  | garbled octets rest fault found decoded =>
      have taken := lines_of_nextInput found follows.dry
      rw [found]
      have other : Item.isFinal (.line octets) = false := by
        simp [Item.isFinal, entryOf, decoded, Except.map]
      exact follows.turn ready rfl taken (by simp) (by simp [other]) (by simp [conclude])
  | line octets rest line found decoded =>
      have taken := lines_of_nextInput found follows.dry
      rw [found]
      have quits := finish_mem_lineTasks console.session console.mode now decoded
      generalize lineTasks console.session console.mode now (stripLineEnd line) = tasks at *
      refine follows.turn ready rfl taken (by simp) quits.mpr ?_
      rintro (ended | leaving)
      · simp [running] at ended
      · exact quits.mp leaving

-- A task is done, or input arrives.
theorem Follows.onward (follows : console.Follows input left items) {rest : List UInt8}
    (lines : Terminal.lines (console.pending ++ left) = Terminal.lines (next.pending ++ rest))
    (dry : next.inputEnded = true → rest = [])
    (spent : console.pending = [] → console.inputEnded = true →
      next.pending = [] ∧ next.inputEnded = true)
    (leaves : console.outcome ≠ none ∨ .finish ∈ console.tasks →
      next.outcome ≠ none ∨ .finish ∈ next.tasks)
    (last : next.outcome = some (.ok ()) ∨ .finish ∈ next.tasks →
      console.outcome = some (.ok ()) ∨ .finish ∈ console.tasks) :
    next.Follows input rest items :=
  ⟨lines ▸ follows.lines, dry, fun closed => spent (follows.spent closed).1
    (follows.spent closed).2, follows.before, fun final => leaves (follows.leaves final),
    fun dry => follows.last (last dry)⟩

theorem Follows.task {task : Task} {tasks : List Task} (follows : console.Follows input left items)
    (first : console.tasks = task :: tasks) (unfinished : task ≠ .finish)
    (running : console.outcome = none) (pending : next.pending = console.pending)
    (ended : next.inputEnded = console.inputEnded) (others : next.tasks = tasks)
    (goes_on : next.outcome = none) : next.Follows input left items := by
  refine follows.onward (by rw [pending]) (ended ▸ follows.dry) ?_ ?_ ?_
  · rw [pending, ended]
    exact And.intro
  · simp [first, running, goes_on, others, Ne.symm unfinished]
  · simp only [first, running, goes_on, others, List.mem_cons, reduceCtorEq, false_or]
    exact Or.inr

/-- Whatever happens, the lines of the input are those that the console has turned to and those that
it has yet to read. -/
theorem Follows.goes {later : List Supply} (settled : console.Settled)
    (free : console.sink = .unlimited) (follows : console.Follows input left items)
    (goes : console.Goes happening next)
    (feeds : Feeds left (happening.supply?.toList ++ later)) :
    ∃ rest, Feeds rest later ∧ next.Follows input rest (items ++ console.turnsTo happening) := by
  cases goes with
  | feed octets =>
      obtain ⟨rest, rfl, more⟩ := feeds
      refine ⟨rest, more, ?_⟩
      rw [turnsTo, List.append_nil]
      have nothing (ended : console.inputEnded = true) : octets = [] ∧ rest = [] :=
        List.append_eq_nil_iff.mp (follows.dry ended)
      refine follows.onward ?_ (fun ended => (nothing ended).2) (fun empty ended => ?_) id id
      · rw [Console.feed, List.append_assoc]
      · exact ⟨by rw [Console.feed, empty, (nothing ended).1]; rfl, ended⟩
  | endInput =>
      obtain ⟨rfl, more⟩ := feeds
      refine ⟨[], more, ?_⟩
      rw [turnsTo, List.append_nil]
      exact follows.onward rfl (fun _ => rfl) (fun empty _ => ⟨empty, rfl⟩) id id
  | send command tasks first | enter room tasks first =>
      have running := settled.running first
      refine ⟨left, feeds, ?_⟩
      rw [turnsTo, List.append_nil]
      exact follows.task first (by simp) running rfl rfl rfl running
  | print task text tasks _ first prints emits =>
      have running := settled.running first
      obtain rfl := emits.of_unlimited free
      refine ⟨left, feeds, ?_⟩
      rw [turnsTo, List.append_nil]
      exact follows.task first (unfinished_of_text prints) running rfl rfl rfl running
  | refuse command tasks first =>
      refine ⟨left, feeds, ?_⟩
      rw [turnsTo, List.append_nil]
      refine follows.onward rfl follows.dry (fun empty ended => ⟨empty, ended⟩) ?_ ?_
      · simp [conclude]
      · simp [conclude]
  | finish tasks _ first finishes =>
      obtain rfl := finishes.of_unlimited free
      refine ⟨left, feeds, ?_⟩
      rw [turnsTo, List.append_nil]
      refine follows.onward rfl follows.dry (fun empty ended => ⟨empty, ended⟩) ?_ ?_
      · simp [conclude]
      · exact fun _ => Or.inr (first ▸ List.mem_cons_self)
  | read now _ ready reads => exact ⟨left, feeds, follows.read ready reads⟩
  | take event ready =>
      obtain ⟨running, -⟩ := isReady_iff.mp ready
      refine ⟨left, feeds, follows.turn ready rfl rfl (by simp) (by simp [Item.isFinal]) ?_⟩
      rintro (ended | leaving)
      · cases running.symm.trans ended
      · exact absurd leaving (finish_notMem_eventTasks _ _ _)

end Console
end ChatRooms.Terminal
