import ChatRooms.Proofs.Hub.Presence
import ChatRooms.Proofs.Server.ClientSide
import ChatRooms.Proofs.Server.Scripted
import ChatRooms.Proofs.Terminal.Ending

/-! How a session that was left to a console leaves the hub. It has left for good when the console
has ended well, or failed in the flush that comes after leaving, and it has not asked to when the
console has failed before. Whenever it leaves, those in its room are told once. -/
namespace ChatRooms

namespace Exchange

/-- Those who leave a room in an act are one of them and the others. -/
theorem leaving_perm {exchange : Exchange} {act : Act} {member : Member} {room : String}
    (keyed : exchange.hub.Keyed) (leaves : member ∈ leaving room exchange act) :
    (leaving room exchange act).Perm
      (member :: (leaving room exchange act).filter (·.id ≠ member.id)) := by
  have ids_once : ((leaving room exchange act).map (·.id)).Nodup :=
    (present_nodup act keyed).sublist (List.filter_sublist.map _)
  have members_once := ids_once.of_map
  apply (List.perm_ext_iff_of_nodup members_once ?_).mpr
  · intro other
    simp only [List.mem_cons, List.mem_filter, decide_eq_true_eq]
    constructor
    · intro listed
      by_cases same : other.id = member.id
      · exact Or.inl (List.inj_on_of_nodup_map ids_once listed leaves same)
      · exact Or.inr ⟨listed, same⟩
    · rintro (rfl | ⟨listed, _⟩)
      · exact leaves
      · exact listed
  · refine List.nodup_cons.mpr ⟨?_, members_once.filter _⟩
    simp

end Exchange

namespace Server

open Terminal

variable {server after : Server} {id : ClientId} {member : Member}
  {label : Option (ClientId × Happening)}

/-- Whoever is in the room of a member that leaves in a turn of the hub, and stays, and takes in
what is delivered to it in this turn, is told once that the member has left; all else that it is
told of entering and leaving is of others. -/
def SeenOff (visit : Visit) (now : Timestamp) (before after : Server) (member : Member) : Prop :=
  ∃ request, before.queued.head? = some request ∧
    let exchange := before.hub.state.exchange
    let act := Exchange.Act.ask visit now request
    ∀ listener hearer, before.registry.member? listener = some hearer →
      hearer.room = member.room → after.registry.isRegistered listener = true →
      Exchange.Admits listener exchange act →
      (notices (delivered listener before after)).Perm
        (Event.left member.name member.room now ::
          ((Exchange.entering member.room exchange act).map fun other =>
              Event.joined other.name other.room now) ++
            ((Exchange.leaving member.room exchange act).filter (·.id ≠ member.id)).map
              fun other => Event.left other.name other.room now)

/-- What a pass is for the hub: nothing, one more request, or a turn of it. -/
theorem Passes.at_hub (passes : server.Passes label after) :
    (after.registry = server.registry ∧ after.queued = server.queued) ∨
      (∃ sender command, after.registry = server.registry ∧
        after.queued = server.queued ++ [⟨sender, command⟩]) ∨
      ∃ visit now loop, server.hub.turn? (Service.actor visit now) = some loop ∧
        after = { server with hub := loop } := by
  cases passes with
  | stays | stop | enter | poll | dropHandle | dropInbox | attend | supply =>
      exact Or.inl ⟨rfl, rfl⟩
  | hub visit now _ turned =>
      obtain ⟨loop, loop_turned, rfl⟩ := Option.map_eq_some_iff.mp turned
      exact Or.inr (Or.inr ⟨visit, now, loop, loop_turned, rfl⟩)
  | openSeat user room session opened created =>
      obtain ⟨_, registry, queued, _⟩ := newSession?_some created
      exact Or.inl ⟨registry, queued⟩
  | openConsole user room mode sink now session opened created =>
      obtain ⟨_, registry, queued, _⟩ := newSession?_some created
      exact Or.inl ⟨registry, queued⟩
  | offer sender seat command _ _ _ taken =>
      obtain ⟨registry, queued, _⟩ := offer_ok taken
      exact Or.inr (Or.inl ⟨sender, command, registry, queued⟩)
  | console owner console next happening middle _ _ affords =>
      have undisturbed := advanceConsole_undisturbed middle next
      rw [undisturbed.registry, undisturbed.queued]
      cases happening with
      | supplied => contradiction
      | sent command =>
          obtain ⟨registry, queued, _⟩ := offer_ok affords
          exact Or.inr (Or.inl ⟨owner, command, registry, queued⟩)
      | refused =>
          obtain ⟨_, rfl⟩ := affords
          exact Or.inl ⟨rfl, rfl⟩
      | worked | read =>
          cases affords
          exact Or.inl ⟨rfl, rfl⟩
      | took event =>
          obtain ⟨mail, _, rfl⟩ := affords
          exact Or.inl ⟨rfl, rfl⟩
  | desert owner console mail _ _ _ =>
      have undisturbed := advanceConsole_undisturbed server console.finish
      exact Or.inl ⟨undisturbed.registry, undisturbed.queued⟩

-- A client that has left and asks for nothing more is on its way out, or out.
theorem Passes.foretold {left : Bool} {fits : Member → Bool} (passes : server.Passes label after)
    (foretold : left = true → Foretold fits server.registry server.queued id)
    (leaves : leftBy left (asked id server after) = true) :
    Foretold fits after.registry after.queued id := by
  rcases passes.at_hub with ⟨registry, queued⟩ | ⟨sender, command, registry, queued⟩ |
    ⟨visit, now, loop, turned, rfl⟩
  · rw [asked_of_queued queued] at leaves
    rw [registry, queued]
    exact foretold leaves
  · rw [asked_of_offer queued] at leaves
    rw [registry, queued]
    by_cases own : sender = id
    · obtain rfl : command = .disconnect := by simpa [own, leftBy] using leaves
      exact own ▸ foretold_of_disconnect
    · rw [if_neg own] at leaves
      exact (foretold leaves).push_other command own
  · rw [(turn_unmoved (Loop.turns_of_turn? turned) id).asked] at leaves
    exact Foretold.turn turned (foretold leaves)

theorem delivered_of_handle {visit : Visit} {now : Timestamp} {request : Request}
    {loop : Loop Service Request} (listener : ClientId)
    (handled : loop.state = server.hub.state.handle visit now request) :
    delivered listener server { server with hub := loop } =
      Exchange.arrivals listener server.hub.state.exchange (.ask visit now request) := by
  have box : (({ server with hub := loop } : Server).mail.box listener) =
      (server.hub.state.exchange.apply visit now request).1.mail.box listener := by
    simp only [mail, handled, Service.handle_exchange, Mailroom.box_release]
  rw [delivered, box]
  rfl

theorem seenOff_of_turn {visit : Visit} {now : Timestamp} {loop : Loop Service Request}
    (orderly : server.Orderly) (turned : server.hub.turn? (Service.actor visit now) = some loop)
    (armed : loop.signal = .armed) (found : server.registry.member? id = some member)
    (gone : ({ server with hub := loop } : Server).registry.isRegistered id = false) :
    SeenOff visit now server { server with hub := loop } member := by
  have registered : server.registry.isRegistered id = true := by
    rw [Hub.isRegistered_eq_isSome, found]
    rfl
  cases Loop.turns_of_turn? turned with
  | start => exact absurd registered (Bool.eq_false_iff.mp gone)
  | finish ended =>
      have before : server.hub.signal = .armed := armed
      exact absurd ended ((orderly.serving before).goes_on before)
  | handle request rest queued =>
      refine ⟨request, congrArg List.head? queued, ?_⟩
      intro exchange act listener hearer heard home stays sink
      have keyed : exchange.hub.Keyed := orderly.sound.keyed
      have registry : (server.hub.state.handle visit now request).exchange.hub =
          (exchange.step act).hub := Service.handle_hub visit now _ request
      have still : (exchange.step act).hub.isRegistered listener = true := registry ▸ stays
      have absent : (exchange.step act).hub.isRegistered id = false := registry ▸ gone
      have self : member.id = id := Hub.id_of_member? found
      have leaves : member ∈ Exchange.leaving member.room exchange act := by
        refine List.mem_filter.mpr ⟨List.mem_append_left _ (Hub.mem_of_member? found), ?_⟩
        simp [self, absent]
      have told := Exchange.notices_of_ask visit now request keyed heard still sink
      rw [home] at told
      rw [delivered_of_handle listener rfl]
      refine told.trans ?_
      have parted := (Exchange.leaving_perm keyed leaves).map fun other =>
        Event.left other.name other.room now
      exact (parted.append_left _).trans List.perm_middle

end Server

namespace Venue

open Server Terminal

variable {venue : Venue} {id : ClientId} {console : Console}

theorem play_foretold (fits : Member → Bool) {left : Bool} (deeds : List Deed)
    (foretold : left = true → Foretold fits venue.server.registry venue.server.queued id)
    (leaves : leftBy left (gather (asked id) venue deeds) = true) :
    Foretold fits (venue.play deeds).server.registry (venue.play deeds).server.queued id := by
  induction deeds generalizing venue left with
  | nil => exact foretold leaves
  | cons deed rest ih =>
      obtain ⟨label, passes, _⟩ := perform_shows venue deed
      rw [gather, leftBy, List.foldl_append] at leaves
      exact ih (fun gone => passes.foretold foretold gone) leaves

theorem perform_seenOff {deed : Deed} {member : Member} (orderly : venue.server.Orderly)
    (armed : (venue.perform deed).server.hub.signal = .armed)
    (found : venue.server.registry.member? id = some member)
    (gone : (venue.perform deed).server.registry.isRegistered id = false) :
    ∃ visit now, deed = .act (.turn visit now .hub) ∧
      SeenOff visit now venue.server (venue.perform deed).server member := by
  have unchanged : (venue.perform deed).server.registry ≠ venue.server.registry := by
    intro same
    rw [same, Hub.isRegistered_eq_isSome, found] at gone
    contradiction
  by_cases hub : ∃ visit now, deed = .act (.turn visit now .hub)
  · obtain ⟨visit, now, rfl⟩ := hub
    refine ⟨visit, now, rfl, ?_⟩
    have performs : (venue.perform (.act (.turn visit now .hub))).server =
        (venue.server.hubTurn? visit now).getD venue.server := rfl
    rw [performs] at unchanged armed gone ⊢
    cases turned : venue.server.hubTurn? visit now with
    | none =>
        rw [turned] at unchanged
        exact absurd rfl unchanged
    | some after =>
        rw [turned] at armed gone
        obtain ⟨loop, loop_turned, rfl⟩ := Option.map_eq_some_iff.mp turned
        exact seenOff_of_turn orderly loop_turned armed found gone
  · have elsewhere := fun visit now same => hub ⟨visit, now, same⟩
    exact absurd (perform_elsewhere elsewhere).registry unchanged

-- A console that has ended asks for nothing.
theorem asks_no_more (deeds : List Deed) (orderly : venue.server.Orderly)
    (found : venue.server.console? id = some console) (ended : console.hasEnded = true) :
    gather (asked id) venue deeds = [] := by
  obtain ⟨next, happenings, unfolds⟩ := play_unfolds deeds orderly found
  have settled := orderly.settled console (console_listed found).2
  exact unfolds.sent.trans (unfolds.reaches.of_ended settled ended).2.1

theorem absent_of_left (deeds : List Deed)
    (leaves : leftBy false (gather (asked id) venue deeds) = true)
    (silent : ∀ request ∈ (venue.play deeds).server.queued, request.sender ≠ id) :
    (venue.play deeds).server.registry.isRegistered id = false := by
  have absent := (play_foretold (fun _ => false) deeds (by simp) leaves).settled silent
  apply Hub.member?_eq_none_iff.mp
  cases found : (venue.play deeds).server.registry.member? id with
  | none => rfl
  | some member =>
      rw [found] at absent
      contradiction

/-- A session that was left to a console leaves the hub if the console ends well. As long as the hub
is not told to stop, a console that ends well has asked to leave last, and one that has asked to
leave last has ended well, unless the flush that is left to do then has failed. A console fails of
an output that takes no more or an input that is no text, and once it has ended the session asks for
nothing more. If it has asked to leave last it is not registered once none of its requests is
queued; when its registration ends, those in its room are told once. -/
theorem leaves_unless_failed (config : Config) (start : Venue) (before after : List Deed)
    (owner : ClientId) (seat : Seat) (mode : Mode) (sink : Sink) (now : Timestamp)
    (started : start? config = some start)
    (leisure : (start.play before).AtLeisure owner seat)
    (serves : (start.play (before ++ .attend owner mode sink now ::
      after)).server.hub.signal = .armed) :
    let attended := (start.play before).perform (.attend owner mode sink now)
    ∃ console, (attended.play after).server.console? owner = some console ∧
      (console.outcome = some (.ok ()) →
        (gather (asked owner) attended after).getLast? = some .disconnect) ∧
      (∀ reason, console.outcome = some (.error reason) →
        ((gather (asked owner) attended after).getLast? = some .disconnect →
          reason = .outputClosed ∧ sink.flushes.isSome = true) ∧
        ((reason = .outputClosed ∧ sink.isLimited = true) ∨
          (∃ fault, reason = .inputInvalid fault) ∧
            ∀ input, Feeds input (supplies owner after) → legible (lines input) = false)) ∧
      (console.hasEnded = true → ∀ later,
        let ending := attended.play (after ++ later)
        gather (asked owner) (attended.play after) later = [] ∧
          ((gather (asked owner) attended after).getLast? = some .disconnect →
            (∀ request ∈ ending.server.queued, request.sender ≠ owner) →
              ending.server.registry.isRegistered owner = false)) ∧
      ∀ early deed member, (attended.play (early ++ [deed])).server.hub.signal = .armed →
        (attended.play early).server.registry.member? owner = some member →
        (attended.play (early ++ [deed])).server.registry.isRegistered owner = false →
        ∃ visit now, deed = .act (.turn visit now .hub) ∧ SeenOff visit now
          (attended.play early).server (attended.play (early ++ [deed])).server member := by
  intro attended
  have orderly_before := play_orderly before (start_orderly started)
  have orderly : attended.server.Orderly := perform_orderly _ orderly_before
  have found := leisure.attended orderly_before mode sink now
  have armed : (attended.play after).server.hub.signal = .armed := by
    rw [play_append] at serves
    exact serves
  obtain ⟨console, happenings, unfolds⟩ := play_unfolds after orderly found
  have accepted := unfolds.accepted armed
  have settled := orderly.settled _ (console_listed found).2
  have parts := (Console.create_parts seat.session mode sink now).reaches settled
    unfolds.reaches accepted
  rw [← unfolds.sent] at parts
  simp only [← leftBy_eq_true]
  refine ⟨console, unfolds.found, fun ended => parts.left_of_ended ended, ?_, ?_, ?_⟩
  · intro reason failed
    refine ⟨fun left => ?_, ?_⟩
    · obtain ⟨closed, limited⟩ := parts.flush_of_failed failed left
      exact ⟨closed, unfolds.reaches.sink.flushes.symm.trans limited⟩
    · have excused := Console.Excused.reaches settled (Console.excused_of_running rfl)
        unfolds.reaches accepted
      rcases excused reason failed with ⟨closed, limited⟩ | ⟨fault, invalid⟩
      · exact Or.inl ⟨closed, unfolds.reaches.sink.isLimited.symm.trans limited⟩
      · refine Or.inr ⟨⟨fault, invalid⟩, fun input feeds => ?_⟩
        rw [unfolds.supplied] at feeds
        exact Console.illegible_of_invalid unfolds.reaches accepted feeds (invalid ▸ failed)
  · intro ended later
    have silent := asks_no_more later (play_orderly after orderly) unfolds.found ended
    refine ⟨silent, fun left => absent_of_left (after ++ later) ?_⟩
    rw [gather_append, silent, List.append_nil]
    exact left
  · intro early deed member still_armed registered gone
    have last : attended.play (early ++ [deed]) = (attended.play early).perform deed := by
      rw [play_append, play_cons, play_nil]
    rw [last] at still_armed gone ⊢
    exact perform_seenOff (play_orderly early orderly) still_armed registered gone

theorem leaves_unless_failed_of_quit :
    let now : Timestamp := ⟨0, 0, by decide, by decide, by decide⟩
    let config : Config := ⟨"general", 20, 8, 64⟩
    let bob : ClientId := ⟨2⟩
    let ann : ClientId := ⟨3⟩
    let hub : Deed := .act (.turn .enrolled now .hub)
    let task : Deed := .act (.turn .enrolled now (.task ann))
    let start : Venue :=
      ⟨⟨config, ⟨Service.create config, ⟨⟨8, [], true⟩, 1⟩, .scheduled, .armed⟩, [], [], 2⟩,
        fun _ => .shared []⟩
    let before : List Deed :=
      [.act (.openSession "bob" ""), .act (.openSession "ann" ""), .act (.begin bob now .connect),
        .act (.proceed bob 0), hub, hub]
    let attended := (start.play before).perform (.attend ann .json .unlimited now)
    let after : List Deed :=
      [task, .act (.feed ann ("/quit\n".toList.map fun c => UInt8.ofNat c.toNat)),
        .act (.turn .enrolled now (.line ann)), task, task]
    let ending := attended.play (after ++ [hub] ++ [hub])
    start? config = some start ∧
      gather (asked ann) (attended.play after) [hub, hub] = [] ∧
      ending.server.registry.isRegistered ann = false ∧
      notices (Server.delivered bob (attended.play (after ++ [hub])).server ending.server) =
        [Event.left "ann" "general" now] := by
  intro now config bob ann hub task start before attended after ending
  have leisure : (start.play before).AtLeisure ann ⟨⟨ann, "ann", "general"⟩, true, true⟩ :=
    ⟨by decide +kernel, rfl, rfl, by decide +kernel⟩
  obtain ⟨console, found, asked_last, _, settled, seen_off⟩ :=
    leaves_unless_failed config start before after ann ⟨⟨ann, "ann", "general"⟩, true, true⟩ .json
      .unlimited now rfl leisure (by decide +kernel)
  have here : ((attended.play after).server.console? ann).map (·.outcome) =
      some (some (.ok ())) := by decide +kernel
  rw [found] at here
  have ended : console.outcome = some (.ok ()) := Option.some.inj here
  obtain ⟨silent, absent⟩ := settled (by rw [Console.hasEnded, ended]; rfl) [hub, hub]
  have gone := absent (asked_last ended) (by decide +kernel)
  obtain ⟨visit, at_, same, request, head, told⟩ :=
    seen_off (after ++ [hub]) hub ⟨ann, ann, "ann", "general"⟩ (by decide +kernel)
      (by decide +kernel) (by decide +kernel)
  injection same with same
  injection same with visits times
  subst visits times
  obtain rfl : ⟨ann, .disconnect⟩ = request := by
    have queued : (attended.play (after ++ [hub])).server.queued.head? =
        some ⟨ann, .disconnect⟩ := by
      decide +kernel
    exact Option.some.inj (queued.symm.trans head)
  have told_bob := told bob ⟨bob, bob, "bob", "general"⟩ (by decide +kernel) rfl
    (by decide +kernel) (by
      unfold Exchange.Admits
      decide +kernel)
  have events : _ = [Event.left "ann" "general" now] :=
    List.perm_singleton.mp (told_bob.trans (.of_eq (by decide +kernel)))
  exact ⟨rfl, silent, gone, events⟩

-- A line that is no text ends the console, and the session stays where it is.
theorem stays_of_unreadable_line :
    let now : Timestamp := ⟨0, 0, by decide, by decide, by decide⟩
    let config : Config := ⟨"general", 20, 8, 64⟩
    let ann : ClientId := ⟨2⟩
    let hub : Deed := .act (.turn .enrolled now .hub)
    let start : Venue :=
      ⟨⟨config, ⟨Service.create config, ⟨⟨8, [], true⟩, 1⟩, .scheduled, .armed⟩, [], [], 2⟩,
        fun _ => .shared []⟩
    let attended := (start.play [.act (.openSession "ann" "")]).perform
      (.attend ann .json .unlimited now)
    let after : List Deed :=
      [.act (.turn .enrolled now (.task ann)), .act (.feed ann [0xff, 10]),
        .act (.turn .enrolled now (.line ann)), hub, hub]
    start? config = some start ∧ (attended.play after).server.hub.signal = .armed ∧
      ((attended.play after).server.console? ann).map (·.hasEnded) = some true ∧
      gather (asked ann) attended after = [.connect "ann" "general"] ∧
      (attended.play after).server.queued = [] ∧
      (attended.play after).server.registry.isRegistered ann = true := by
  intro now config ann hub start attended after
  exact ⟨rfl, by decide +kernel, by decide +kernel, by decide +kernel, by decide +kernel,
    by decide +kernel⟩

end Venue
end ChatRooms
