import ChatRooms.Proofs.Server.Progress
import ChatRooms.Proofs.Terminal.Script

/-! What a console asks of the hub depends on nothing but its input. However the input is cut,
whatever is delivered in between and whoever else is there, the requests are those of the script, in
its order; and there is always a way on to its end. -/
namespace ChatRooms

namespace Terminal

theorem feeds_append {input : List UInt8} {first : List Supply} (feeds : Feeds input first) :
    ∃ left, ∀ later, Feeds left later → Feeds input (first ++ later) := by
  induction first generalizing input with
  | nil => exact ⟨input, fun _ fed => fed⟩
  | cons supply rest ih =>
      cases supply with
      | octets chunk =>
          obtain ⟨left, rfl, more⟩ := feeds
          obtain ⟨last, later⟩ := ih more
          exact ⟨last, fun supplies fed => ⟨left, rfl, later supplies fed⟩⟩
      | ended =>
          obtain ⟨rfl, more⟩ := feeds
          obtain ⟨last, later⟩ := ih more
          exact ⟨last, fun supplies fed => ⟨rfl, later supplies fed⟩⟩

end Terminal

namespace Server

open Terminal

variable {server : Server} {owner : ClientId} {console : Console}

theorem feed_found (octets : List UInt8) (found : server.console? owner = some console) :
    (server.feed owner octets).console? owner = some (console.feed octets) := by
  have self : (console.feed octets).session.id = owner := (console_listed found).1
  simp only [Server.feed, found, console?_replaced found self, ↓reduceIte]

theorem endInput_found (found : server.console? owner = some console) :
    (server.endInput owner).console? owner = some console.endInput := by
  have self : console.endInput.session.id = owner := (console_listed found).1
  simp only [Server.endInput, found, console?_replaced found self, ↓reduceIte]

end Server

namespace Venue

open Server Terminal

variable {venue : Venue} {owner : ClientId} {seat : Seat} {mode : Mode}
  {sink : Sink} {now : Timestamp} {console : Console}

/-- A session of which the caller has both halves, and no call on it is in progress. -/
structure AtLeisure (venue : Venue) (owner : ClientId) (seat : Seat) : Prop where
  seated : venue.server.seat? owner = some seat
  handle : seat.hasHandle = true
  inbox : seat.hasInbox = true
  idle : (venue.activity owner).isIdle = true

theorem AtLeisure.attend (leisure : venue.AtLeisure owner seat) (mode : Mode)
    (sink : Sink) (now : Timestamp) :
    (venue.perform (.attend owner mode sink now)).server = { venue.server with
      seats := venue.server.seats.filter (·.session.id ≠ owner)
      consoles := venue.server.consoles ++
        [Console.create seat.session mode sink now] } := by
  have whole : (venue.server.seat? owner).filter (fun seat => seat.hasHandle && seat.hasInbox) =
      some seat :=
    Option.filter_eq_some_iff.mpr ⟨leisure.seated, by simp [leisure.handle, leisure.inbox]⟩
  rw [perform, if_pos leisure.idle, Server.attend, whole]

-- The console begins with nothing done and nothing lost of what the session had been told.
theorem AtLeisure.attended (leisure : venue.AtLeisure owner seat) (orderly : venue.server.Orderly)
    (mode : Mode) (sink : Sink) (now : Timestamp) :
    (venue.perform (.attend owner mode sink now)).server.console? owner =
      some (Console.create seat.session mode sink now) := by
  have self := (seat_listed leisure.seated).1
  have before : ({ venue.server with
      seats := venue.server.seats.filter (·.session.id ≠ owner) } : Server).console? owner =
        none := orderly.no_console leisure.seated
  have fresh : (Console.create seat.session mode sink now).session.id = owner := self
  have appended := console?_append
    { venue.server with seats := venue.server.seats.filter (·.session.id ≠ owner) }
    (Console.create seat.session mode sink now) owner
  rw [leisure.attend, appended, before, if_pos fresh]
  rfl

def sentBy (at_ : Timestamp) (owner : ClientId) (venue : Venue) (deeds : List Deed) :
    List Command :=
  (gather (asked owner) venue deeds).map (Command.stamped at_)

/-- A console that is on script sends a part of the script, from the beginning, and all of it by its
end, which it does not come to by an error. -/
theorem script_followed (at_ : Timestamp) {input : List UInt8} (deeds : List Deed)
    (orderly : venue.server.Orderly) (found : venue.server.console? owner = some console)
    (on : console.OnScript input) (free : console.sink = .unlimited)
    (feeds : Feeds input (supplies owner deeds))
    (serves : (venue.play deeds).server.hub.signal = .armed) :
    ∃ next, (venue.play deeds).server.console? owner = some next ∧
      sentBy at_ owner venue deeds <+: console.remaining at_ input ∧
      (next.hasEnded = true → next.outcome = some (.ok ()) ∧
        sentBy at_ owner venue deeds = console.remaining at_ input) := by
  obtain ⟨next, happenings, unfolds⟩ := play_unfolds deeds orderly found
  have fed : Feeds input (happenings.filterMap Happening.supply? ++ []) := by
    rw [List.append_nil, ← unfolds.supplied]
    exact feeds
  obtain ⟨left, _, on_next, parts⟩ :=
    on.reaches at_ unfolds.reaches (unfolds.accepted serves) fed
  have parted := parts free
  have sent : sentBy at_ owner venue deeds =
      (happenings.filterMap Happening.sent?).map (Command.stamped at_) := by
    rw [sentBy, unfolds.sent]
  refine ⟨next, unfolds.found, ?_, fun ended => ⟨?_, ?_⟩⟩
  · exact ⟨_, by rw [sent, parted]⟩
  · obtain ⟨outcome, done⟩ := Option.isSome_iff_exists.mp ended
    cases outcome with
    | ok => exact done
    | error reason =>
        have limited := (on_next.fine reason done).2
        rw [unfolds.reaches.sink.isLimited, free] at limited
        contradiction
  · rw [sent, parted, Console.remaining, if_pos ended, List.append_nil]

-- The rest of the input and turns of the hub and of the console are enough to get to the end.
theorem script_finished (now : Timestamp) {input : List UInt8} (deeds : List Deed)
    (orderly : venue.server.Orderly) (found : venue.server.console? owner = some console)
    (feeds : Feeds input (supplies owner deeds))
    (serves : (venue.play deeds).server.hub.signal = .armed) :
    ∃ more next, (∀ deed ∈ more, deed.Urges owner) ∧
      Feeds input (supplies owner (deeds ++ more)) ∧
      (venue.play (deeds ++ more)).server.hub.signal = .armed ∧
      (venue.play (deeds ++ more)).server.console? owner = some next ∧ next.hasEnded = true := by
  obtain ⟨middle, happenings, unfolds⟩ := play_unfolds deeds orderly found
  obtain ⟨left, fed⟩ := feeds_append feeds
  -- What is left of the input is fed in one piece, and then the input ends.
  let rest : List Deed := [.act (.feed owner left), .act (.endInput owner)]
  have rest_supplies : supplies owner rest = [.octets left, .ended] := by
    simp [rest, supplies, Deed.supply?]
  have rest_urges : ∀ deed ∈ rest, deed.Urges owner := by
    intro deed listed
    simp only [rest, List.mem_cons, List.not_mem_nil, or_false] at listed
    rcases listed with rfl | rfl <;> rfl
  have after_feed : (venue.play (deeds ++ rest)).server =
      (((venue.play deeds).server.feed owner left).endInput owner) := by
    rw [play_append]
    rfl
  have fed_console := feed_found left unfolds.found
  have here : (venue.play (deeds ++ rest)).server.console? owner =
      some (middle.feed left).endInput := by
    rw [after_feed]
    exact endInput_found fed_console
  have armed : (venue.play (deeds ++ rest)).server.hub.signal = .armed := by
    rw [after_feed, Server.endInput, fed_console, Server.feed, unfolds.found]
    exact serves
  obtain ⟨more, next, urge, there, last, ended⟩ := console_ends now _ _ _ (Nat.le_refl _)
    (play_orderly (deeds ++ rest) orderly) armed here rfl
  have quiet : supplies owner more = [] := by
    apply List.filterMap_eq_nil_iff.mpr
    exact fun deed listed => (urge deed listed).2
  refine ⟨rest ++ more, next, ?_, ?_, ?_, ?_, ended⟩
  · intro deed listed
    exact (List.mem_append.mp listed).elim (rest_urges deed) fun later => (urge deed later).1
  · have all : supplies owner (deeds ++ (rest ++ more)) =
        supplies owner deeds ++ [.octets left, .ended] := by
      simp only [supplies, List.filterMap_append] at quiet rest_supplies ⊢
      rw [quiet, rest_supplies, List.append_nil]
    rw [all]
    exact fed _ ⟨[], by simp, rfl, trivial⟩
  · rw [← List.append_assoc, play_append]
    exact last
  · rw [← List.append_assoc, play_append]
    exact there

/-- What a console asks of the hub is a function of its input alone. From a session that is left to
a console, whatever it had done before and whatever others do, the requests are a connect, those of
the lines up to the first that quits, and a disconnect: all of them when the console has ended, and
until then the first so many. It ends without an error, and there is a way on to its end from
everywhere, as long as the hub is not told to stop. -/
theorem requests_are_of_input (config : Config) (start : Venue) (before after : List Deed)
    (owner : ClientId) (seat : Seat) (mode : Mode) (now at_ : Timestamp) (input : List UInt8)
    (started : start? config = some start)
    (leisure : (start.play before).AtLeisure owner seat)
    (feeds : Feeds input (supplies owner after)) (text : legible (lines input) = true)
    (serves : (start.play (before ++ .attend owner mode .unlimited now ::
      after)).server.hub.signal = .armed) :
    let attended := (start.play before).perform (.attend owner mode .unlimited now)
    let all := .connect seat.session.user seat.session.room ::
      script at_ seat.session (lines input)
    (∃ console, (attended.play after).server.console? owner = some console ∧
      sentBy at_ owner attended after <+: all ∧
      (console.hasEnded = true →
        console.outcome = some (.ok ()) ∧ sentBy at_ owner attended after = all)) ∧
    ∃ more console, (∀ deed ∈ more, deed.Urges owner) ∧
      Feeds input (supplies owner (after ++ more)) ∧
      (attended.play (after ++ more)).server.console? owner = some console ∧
      console.outcome = some (.ok ()) ∧ sentBy at_ owner attended (after ++ more) = all := by
  intro attended all
  have orderly_before := play_orderly before (start_orderly started)
  have orderly : attended.server.Orderly := perform_orderly _ orderly_before
  have found := leisure.attended orderly_before mode .unlimited now
  have on : (Console.create seat.session mode .unlimited now).OnScript input :=
    Console.create_onScript text
  have remaining : (Console.create seat.session mode .unlimited now).remaining at_ input = all :=
    Console.create_remaining mode now
  have armed : (attended.play after).server.hub.signal = .armed := by
    rw [play_append] at serves
    exact serves
  refine ⟨?_, ?_⟩
  · have followed := script_followed at_ after orderly found on rfl feeds armed
    rw [remaining] at followed
    exact followed
  · obtain ⟨more, next, urges, fed, still, there, ended⟩ :=
      script_finished now after orderly found feeds armed
    obtain ⟨console, here, _, at_end⟩ := script_followed at_ (after ++ more) orderly found on rfl
      fed still
    cases here.symm.trans there
    obtain ⟨outcome, sent⟩ := at_end ended
    exact ⟨more, next, urges, fed, there, outcome, sent.trans remaining⟩

theorem requests_are_of_input_of_chunks :
    let now : Timestamp := ⟨0, 0, by decide, by decide, by decide⟩
    let config : Config := ⟨"general", 20, 1, 64⟩
    let ann : ClientId := ⟨2⟩
    let hub : Deed := .act (.turn .enrolled now .hub)
    let task : Deed := .act (.turn .enrolled now (.task ann))
    let start : Venue :=
      ⟨⟨config, ⟨Service.create config, ⟨⟨1, [], true⟩, 1⟩, .scheduled, .armed⟩, [], [], 2⟩,
        fun _ => .shared []⟩
    let before : List Deed := [.act (.openSession "ann" "")]
    let attended := (start.play before).perform (.attend ann .json .unlimited now)
    let octets := fun text : String => text.toList.map fun c => UInt8.ofNat c.toNat
    -- The first line comes in two pieces, and the hub has room for one request at a time.
    let after : List Deed :=
      [hub, .act (.feed ann (octets "hi")), task, hub,
        .act (.turn .enrolled now (.line ann)), .act (.feed ann (octets " bob\n/join rust\n/u")),
        .act (.turn .enrolled now (.line ann)), task, hub]
    start? config = some start ∧
      sentBy now ann attended after = [.connect "ann" "general", .post "ann" "hi bob" ""] ∧
      ∃ more console, (attended.play (after ++ more)).server.console? ann = some console ∧
        console.outcome = some (.ok ()) ∧
        sentBy now ann attended (after ++ more) =
          [.connect "ann" "general", .post "ann" "hi bob" "", .disconnect, .connect "ann" "rust",
            .listUsers "rust", .disconnect] := by
  intro now config ann hub task start before attended octets after
  let input := octets "hi bob\n/join rust\n/users\n/quit\n/users\n"
  let seat : Seat := ⟨⟨ann, "ann", "general"⟩, true, true⟩
  have leisure : (start.play before).AtLeisure ann seat :=
    ⟨by decide +kernel, rfl, rfl, by decide +kernel⟩
  have feeds : Feeds input (supplies ann after) :=
    ⟨octets " bob\n/join rust\n/users\n/quit\n/users\n", by decide +kernel,
      octets "sers\n/quit\n/users\n", by decide +kernel, trivial⟩
  obtain ⟨_, more, console, _, _, found, outcome, sent⟩ :=
    requests_are_of_input config start before after ann seat .json now now input rfl leisure feeds
      (by decide +kernel) (by decide +kernel)
  refine ⟨rfl, by decide +kernel, more, console, found, outcome, sent.trans ?_⟩
  decide +kernel

end Venue
end ChatRooms
