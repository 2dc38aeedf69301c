import ChatRooms.Proofs.Hub.Sweep
import Mathlib.Data.List.ReduceOption
import Mathlib.Data.Nat.Choose.Basic

/-! The loop that removes the clients found closed, one turn for each client on their list. A turn
can put more clients on the list than it takes off, but it does so only if it strikes a member off,
and then at most one for each member left; so the loop ends, and the rounds of pruning are its turns
that find a member. It starts from any registry, any list and any mailboxes. -/
namespace ChatRooms.Exchange

variable {visit : Visit} {now : Timestamp} {exchange : Exchange} {member : Member}
  {id : ClientId} {rest : List ClientId}

def relist (exchange : Exchange) (closed : List ClientId) : Exchange :=
  { exchange with hub := { exchange.hub with closed } }

theorem depart_fewer (visit : Visit) (now : Timestamp) (rest : List ClientId)
    (found : exchange.hub.member? id = some member) :
    (depart visit now (exchange.relist rest) member).hub.members.length <
      exchange.hub.members.length := by
  rw [depart_members, Hub.strike]
  exact List.length_filter_lt_length_iff_exists.mpr
    ⟨member, Hub.mem_of_member? found, by simp⟩

/-- Takes the clients found closed off their list until none is left, the one found last first.
Returns the exchange in the end, and for each turn the member that was struck off in it, none when
the client was not registered any more. -/
def reap (visit : Visit) (now : Timestamp) (exchange : Exchange) :
    List (Option Member) × Exchange :=
  match _ : exchange.hub.closed with
  | [] => ([], exchange)
  | id :: rest =>
      match _ : exchange.hub.member? id with
      | none =>
          let later := reap visit now (exchange.relist rest)
          (none :: later.1, later.2)
      | some member =>
          let later := reap visit now (depart visit now (exchange.relist rest) member)
          (some member :: later.1, later.2)
-- A turn that strikes a member off may lengthen the list; any other turn shortens it.
termination_by (exchange.hub.members.length, exchange.hub.closed.length)
decreasing_by
  · apply Prod.Lex.right
    simp [relist, *]
  · apply Prod.Lex.left
    exact depart_fewer visit now rest ‹_›

theorem reap_of_nobody (nobody : exchange.hub.closed = []) :
    reap visit now exchange = ([], exchange) := by
  rw [reap]
  grind

theorem reap_of_stranger (listed : exchange.hub.closed = id :: rest)
    (stranger : exchange.hub.member? id = none) :
    reap visit now exchange = (none :: (reap visit now (exchange.relist rest)).1,
      (reap visit now (exchange.relist rest)).2) := by
  rw [reap]
  grind

theorem reap_of_member (listed : exchange.hub.closed = id :: rest)
    (found : exchange.hub.member? id = some member) :
    reap visit now exchange =
      (some member :: (reap visit now (depart visit now (exchange.relist rest) member)).1,
        (reap visit now (depart visit now (exchange.relist rest) member)).2) := by
  rw [reap]
  grind

/-! How many turns there are -/

theorem length_audience_le (visit : Visit) (hub : Hub) (room : String) (absent : ClientId) :
    (audience visit hub room absent).length ≤ hub.members.length := by
  rw [audience, List.length_map, ← (visit.perm hub.members).length_eq]
  exact List.length_filter_le _ _

-- A departure puts at most the members left on the list.
theorem depart_listed_le (visit : Visit) (now : Timestamp) (exchange : Exchange)
    (member : Member) (rest : List ClientId) :
    (depart visit now (exchange.relist rest) member).hub.closed.length ≤
      (depart visit now (exchange.relist rest) member).hub.members.length + rest.length := by
  rw [relist, depart_without]
  simp only [without, List.length_append, List.length_reverse]
  have few := (List.length_filter_le exchange.mail.isShut _).trans
    (length_audience_le visit (exchange.hub.strike member.id) member.room member.id)
  omega

theorem choose_two_of_lt {few many : Nat} (fewer : few < many) :
    few + few.choose 2 ≤ many.choose 2 := by
  have step := Nat.choose_le_choose 2 (Nat.succ_le_of_lt fewer)
  rwa [Nat.succ_eq_add_one, Nat.choose_succ_succ' _ 1, Nat.choose_one_right] at step

-- There is a turn for each client on the list, and at most one for each pair of members: the later
-- of the two is put on the list when the earlier goes.
theorem turns_le (visit : Visit) (now : Timestamp) (exchange : Exchange) :
    (reap visit now exchange).1.length ≤
      exchange.hub.closed.length + exchange.hub.members.length.choose 2 := by
  induction exchange using reap.induct visit now with
  | case1 exchange nobody => simp [reap_of_nobody nobody]
  | case2 exchange id rest listed stranger ih =>
      rw [reap_of_stranger listed stranger, listed]
      simp only [relist] at ih
      simp only [relist, List.length_cons]
      omega
  | case3 exchange id rest listed member found ih =>
      have fewer := depart_fewer visit now rest found
      have pushed := depart_listed_le visit now exchange member rest
      have pairs := choose_two_of_lt fewer
      rw [reap_of_member listed found, listed]
      simp only [List.length_cons]
      omega

/-! The rounds of pruning -/

theorem nextClosed?_of_stranger (listed : exchange.hub.closed = id :: rest)
    (stranger : exchange.hub.member? id = none) :
    nextClosed? (exchange.relist rest).hub = nextClosed? exchange.hub := by
  have unknown := Hub.member?_eq_none_iff.mp stranger
  simp only [nextClosed?, listed, List.dropWhile_cons, unknown, Bool.not_false, ↓reduceIte]
  rfl

theorem nextClosed?_of_member (listed : exchange.hub.closed = id :: rest)
    (found : exchange.hub.member? id = some member) :
    nextClosed? exchange.hub = some (member, rest) := by
  have registered : exchange.hub.isRegistered id = true := by
    simp [Hub.isRegistered_eq_isSome, found]
  simp [nextClosed?, listed, registered, found]

-- A round passes over the strangers before the next member, for each of which there is a turn.
theorem rounds_eq_reap {rounds : Nat} (enough : exchange.hub.members.length ≤ rounds) :
    pruneRounds visit now rounds exchange = (reap visit now exchange).2 ∧
      departed visit now rounds exchange = (reap visit now exchange).1.reduceOption := by
  induction exchange using reap.induct visit now generalizing rounds with
  | case1 exchange nobody =>
      rw [reap_of_nobody nobody, pruneRounds_of_none rounds nobody,
        departed_of_none rounds nobody]
      exact ⟨rfl, rfl⟩
  | case2 exchange id rest listed stranger ih =>
      obtain ⟨pruned, gone⟩ := ih enough
      rw [reap_of_stranger listed stranger, List.reduceOption_cons_of_none, ← pruned, ← gone]
      cases rounds with
      | zero => exact ⟨rfl, rfl⟩
      | succ rounds =>
          simp only [pruneRounds, departed, nextClosed?_of_stranger listed stranger]
          exact ⟨rfl, rfl⟩
  | case3 exchange id rest listed member found ih =>
      have fewer := depart_fewer visit now rest found
      cases rounds with
      | zero => omega
      | succ rounds =>
          obtain ⟨pruned, gone⟩ := @ih rounds (by omega)
          rw [reap_of_member listed found, List.reduceOption_cons_of_some, ← pruned, ← gone]
          simp only [pruneRounds, departed, nextClosed?_of_member listed found]
          exact ⟨rfl, rfl⟩

/-- The departures that a client is told of: those from its room before its own. -/
def heardBy (hub : Hub) (gone : List Member) (client : ClientId) : List Member :=
  (hub.member? client).elim [] fun member =>
    (gone.takeWhile (·.id ≠ client)).filter (·.room = member.room)

theorem addressed_heardBy {hub : Hub} (gone : List Member) (keyed : hub.Keyed)
    (client : ClientId) : addressed client (farewells visit now hub gone) =
      (heardBy hub gone client).map fun leaver => Event.left leaver.name leaver.room now := by
  unfold heardBy
  cases found : hub.member? client with
  | none => exact addressed_farewells_of_stranger gone keyed found
  | some member => exact addressed_farewells_until gone keyed found

/-- The loop that removes the clients found closed ends after so many turns with an empty list, from
any registry that is keyed by its mailboxes, any list and in any order. It strikes off those on the
list who are registered and everybody in their rooms whose mailbox is closed, nobody twice; the
registry is otherwise as it was, and each client is told once of each departure from its room before
its own, and of nothing else. -/
theorem reap_exact (visit : Visit) (now : Timestamp) (keyed : exchange.hub.Keyed) :
    let turns := (reap visit now exchange).1
    let after := (reap visit now exchange).2
    let gone := turns.reduceOption
    after = prune visit now exchange ∧
      turns.length ≤ exchange.hub.closed.length + exchange.hub.members.length.choose 2 ∧
      after.hub = { exchange.hub with
        members := remaining exchange.hub.members gone
        closed := [] } ∧
      (gone.map (·.id)).Nodup ∧
      (∀ member, member ∈ gone ↔ member ∈ exchange.hub.members ∧
        (member.id ∈ exchange.hub.closed ∨ (exchange.mail.isShut member.id = true ∧
          ∃ other ∈ exchange.hub.members,
            other.id ∈ exchange.hub.closed ∧ other.room = member.room))) ∧
      ∀ client, after.mail.box client = (exchange.mail.box client).putAll
        ((heardBy exchange.hub gone client).map fun leaver =>
          Event.left leaver.name leaver.room now) := by
  intro turns after gone
  obtain ⟨pruned, left_it⟩ :=
    @rounds_eq_reap visit now exchange _ (Nat.le_refl exchange.hub.members.length)
  have after_eq : after = prune visit now exchange := pruned.symm
  have gone_eq : gone = departed visit now exchange.hub.members.length exchange := left_it.symm
  refine ⟨after_eq, turns_le visit now exchange, ?_, ?_, ?_, ?_⟩
  · rw [after_eq, gone_eq, prune, pruneRounds_hub]
  · rw [gone_eq]
    exact (departed_subset visit now _ exchange).2
  · intro member
    rw [gone_eq, departed_eq_sweep, mem_sweep visit _ _ keyed (Nat.le_refl _)]
    rfl
  · intro client
    rw [after_eq, gone_eq, prune, pruneRounds_box, addressed_heardBy _ keyed]

theorem reap_exact_of_ghosts :
    let now : Timestamp := ⟨0, 0, by decide, by decide, by decide⟩
    let ann : Member := ⟨⟨1⟩, ⟨1⟩, "ann", "den"⟩
    let bob : Member := ⟨⟨2⟩, ⟨2⟩, "bob", "den"⟩
    let carl : Member := ⟨⟨3⟩, ⟨3⟩, "carl", "den"⟩
    let dan : Member := ⟨⟨4⟩, ⟨4⟩, "dan", "den"⟩
    let eve : Member := ⟨⟨5⟩, ⟨5⟩, "eve", "lab"⟩
    let gus : Member := ⟨⟨6⟩, ⟨6⟩, "gus", "den"⟩
    let stranger : ClientId := ⟨9⟩
    let mail : Mailroom :=
      ⟨[(ann.id, ⟨⟨8, [], true⟩, 1⟩), (dan.id, ⟨⟨1, [.users []], true⟩, 1⟩)]⟩
    let exchange : Exchange := ⟨⟨"general", [ann, bob, carl, dan, eve, gus], History.empty 20,
      [carl.id, stranger, ann.id, carl.id]⟩, mail⟩
    let after := (reap .enrolled now exchange).2
    exchange.hub.Keyed ∧ after.hub.members = [dan, eve] ∧ after.hub.closed = [] ∧
      (∀ member ∈ [ann, bob, carl, gus],
        member ∈ (reap .enrolled now exchange).1.reduceOption) ∧
      (after.mail.box ann.id).queue = [Event.left "carl" "den" now, Event.left "gus" "den" now,
        Event.left "bob" "den" now] ∧
      (after.mail.box dan.id).queue = [.users []] := by
  intro now ann bob carl dan eve gus stranger mail exchange after
  have keyed : exchange.hub.Keyed := ⟨by decide +kernel, by decide +kernel⟩
  obtain ⟨same, _, hub, _, exactly, _⟩ := reap_exact .enrolled now keyed
  replace same : after = prune .enrolled now exchange := same
  refine ⟨keyed, ?_, ?_, ?_, ?_, ?_⟩
  · rw [same]
    decide +kernel
  · rw [hub]
  · intro member listed
    rw [exactly]
    revert member
    decide +kernel
  · rw [same]
    decide +kernel
  · rw [same]
    decide +kernel

end ChatRooms.Exchange
