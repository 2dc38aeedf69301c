import ChatRooms.Proofs.Server.Agreement
import ChatRooms.Proofs.Server.Ledger

/-! What a console takes over with a session: a mailbox that is open, and the accord of the session
with the hub. Both are there whatever was done with the session before. -/
namespace ChatRooms

namespace Server

open Terminal

variable {server after middle : Server} {id : ClientId} {label : Option (ClientId × Happening)}

/-! ## Mailboxes stay open -/

structure Unheard (server : Server) (id : ClientId) : Prop where
  seat : ∀ seat, server.seat? id = some seat → seat.hasInbox = false
  console : ∀ console, server.console? id = some console → console.hasEnded = true

def Attentive (server : Server) : Prop :=
  ∀ id seat, server.seat? id = some seat → seat.hasInbox = true →
    (server.mail.box id).isOpen = true

theorem receive_isOpen (mail : Mailroom) (owner id : ClientId) :
    ((mail.receive owner).2.box id).isOpen = (mail.box id).isOpen := by
  by_cases here : id = owner
  · subst here
    cases queued : (mail.channel id).box.queue <;>
      simp [Mailroom.receive, Channel.receive, Mailbox.take?, queued, Mailroom.box]
  · rw [box_receive_ne here]

theorem newSession_isOpen {user room : String} {session : Session} {opened : Server}
    (created : server.newSession? user room = some (session, opened)) :
    (opened.mail.box session.id).isOpen = true := by
  obtain ⟨mail, made, same⟩ := Option.map_eq_some_iff.mp created
  cases same
  obtain ⟨channel, fresh, rfl⟩ := Option.map_eq_some_iff.mp made
  obtain ⟨box, admitted, rfl⟩ := Option.map_eq_some_iff.mp fresh
  unfold Mailbox.create? at admitted
  split at admitted
  · cases admitted
    simp [Server.mail, setMail, Mailroom.box]
  · contradiction

theorem newSession_keeps_open {user room : String} {session : Session} {opened : Server}
    (created : server.newSession? user room = some (session, opened))
    (before : (server.mail.box id).isOpen = true) : (opened.mail.box id).isOpen = true := by
  by_cases new : id = session.id
  · subst new
    exact newSession_isOpen created
  · rw [newSession_box created new]
    exact before

theorem Affords.isOpen {owner : ClientId} {happening : Happening}
    (affords : server.Affords owner happening middle) :
    (middle.mail.box id).isOpen = (server.mail.box id).isOpen := by
  cases happening with
  | supplied supply => contradiction
  | sent command =>
      rw [offer_accepted affords]
      exact congrArg Mailbox.isOpen (Mailroom.box_share _ _ _)
  | refused =>
      obtain ⟨_, rfl⟩ := affords
      rfl
  | worked | read =>
      cases affords
      rfl
  | took event =>
      obtain ⟨mail, received, rfl⟩ := affords
      have kept := receive_isOpen server.mail owner id
      rw [received] at kept
      exact kept

-- A console closes its own mailbox, and that when it ends.
theorem advanceConsole_isOpen {owner : ClientId} {console next : Console}
    (found : middle.console? owner = some console) (self : next.session.id = owner)
    (no_seat : middle.seat? owner = none) (opened : (middle.mail.box id).isOpen = true) :
    ((middle.advanceConsole next).mail.box id).isOpen = true ∨
      (middle.advanceConsole next).Unheard id := by
  rw [mail_advanceConsole, self]
  split
  · rename_i ended
    by_cases here : id = owner
    · subst here
      refine Or.inr ⟨fun seat seated => ?_, fun other there => ?_⟩
      · rw [seat?, advanceConsole_seats] at seated
        cases no_seat.symm.trans seated
      · rw [console?_advanceConsole found self, if_pos rfl] at there
        exact Option.some.inj there ▸ ended
    · rw [box_close_ne here, Mailroom.box_release]
      exact Or.inl opened
  · exact Or.inl opened

/-- A mailbox stays open until nobody has its inbox. -/
theorem Passes.isOpen (passes : server.Passes label after) (orderly : server.Orderly)
    (opened : (server.mail.box id).isOpen = true) :
    (after.mail.box id).isOpen = true ∨ after.Unheard id := by
  cases passes with
  | stays | stop | enter | attend | supply => exact Or.inl opened
  | hub visit now _ turned =>
      exact Or.inl (((hubTurn_of_some turned).boxes id).1.trans opened)
  | openSeat user room session fresh created
  | openConsole user room mode sink now session fresh created =>
      have still : (fresh.mail.box id).isOpen = true := newSession_keeps_open created opened
      exact Or.inl still
  | offer other seat command _ _ _ taken =>
      have affords : server.Affords other (.sent command) _ := taken
      exact Or.inl (affords.isOpen.trans opened)
  | poll other => exact Or.inl ((receive_isOpen server.mail other id).trans opened)
  | dropHandle other =>
      exact Or.inl ((congrArg Mailbox.isOpen (Mailroom.box_release _ _ _)).trans opened)
  | dropInbox other seat found =>
      have self := (seat_listed found).1
      by_cases here : id = other
      · subst here
        refine Or.inr ⟨fun there seated => ?_, fun console listed => ?_⟩
        · have replaced : _ = some there :=
            (@seat?_replaced _ _ _ found { seat with hasInbox := false } self id).symm.trans seated
          rw [if_pos rfl] at replaced
          cases replaced
          rfl
        · cases (orderly.no_console found).symm.trans listed
      · exact Or.inl ((congrArg Mailbox.isOpen (box_close_ne here)).trans opened)
  | console other there next happening middle found goes affords =>
      have self := goes.session_id.trans (console_listed found).1
      obtain ⟨orderly_middle, still⟩ := orderly.afforded found affords
      exact advanceConsole_isOpen still self (orderly_middle.no_seat still)
        (affords.isOpen.trans opened)
  | desert other console mail found ready alone =>
      exact advanceConsole_isOpen found (console_listed found).1 (orderly.no_seat found) opened

/-- Whoever has an inbox had it before, or has just come. -/
theorem Passes.inbox (passes : server.Passes label after) {seat : Seat}
    (found : after.seat? id = some seat) (inbox : seat.hasInbox = true) :
    (∃ earlier, server.seat? id = some earlier ∧ earlier.hasInbox = true) ∨
      (after.mail.box id).isOpen = true := by
  have kept (same : after.seats = server.seats) :
      ∃ earlier, server.seat? id = some earlier ∧ earlier.hasInbox = true :=
    ⟨seat, (congrArg (List.find? _) same).symm.trans found, inbox⟩
  have replaced {other : ClientId} {there : Seat} (changed : Seat)
      (seated : server.seat? other = some there) (self : changed.session.id = other)
      (listed : (server.setSeat changed).seat? id = some seat)
      (had : changed.hasInbox = true → there.hasInbox = true) :
      ∃ earlier, server.seat? id = some earlier ∧ earlier.hasInbox = true := by
    rw [seat?_replaced seated self] at listed
    by_cases here : other = id
    · subst here
      rw [if_pos rfl] at listed
      cases listed
      exact ⟨there, seated, had inbox⟩
    · rw [if_neg here] at listed
      exact ⟨seat, listed, inbox⟩
  cases passes with
  | stays | stop | poll | supply => exact Or.inl (kept rfl)
  | hub visit now _ turned =>
      obtain ⟨loop, _, rfl⟩ := Option.map_eq_some_iff.mp turned
      exact Or.inl (kept rfl)
  | openSeat user room session opened created =>
      rw [seat?_append, (newSession?_found created id).1] at found
      rcases Option.or_eq_some_iff.mp found with before | ⟨_, new⟩
      · exact Or.inl ⟨seat, before, inbox⟩
      · split at new
        · rename_i here
          have fresh : (opened.mail.box session.id).isOpen = true := newSession_isOpen created
          exact Or.inr (here ▸ fresh)
        · contradiction
  | openConsole user room mode sink now session opened created =>
      exact Or.inl (kept (newSession?_some created).2.2.2.2.1)
  | enter other there room seated =>
      exact Or.inl (replaced { there with session := there.session.enter room } seated
        (seat_listed seated).1 found (fun had => had))
  | offer other there command _ _ _ taken => exact Or.inl (kept (offer_ok taken).2.2.2.1)
  | dropHandle other there seated =>
      exact Or.inl (replaced { there with hasHandle := false } seated (seat_listed seated).1 found
        (fun had => had))
  | dropInbox other there seated =>
      exact Or.inl (replaced { there with hasInbox := false } seated (seat_listed seated).1 found
        nofun)
  | attend other there mode sink now seated =>
      have parted : _ = some seat := (seat?_without server other id).symm.trans found
      split at parted
      · contradiction
      · exact Or.inl ⟨seat, parted, inbox⟩
  | console other there next happening middle _ goes affords =>
      refine Or.inl (kept ((advanceConsole_seats middle next).trans ?_))
      cases happening with
      | supplied => contradiction
      | sent command => exact (offer_ok affords).2.2.2.1
      | refused =>
          obtain ⟨_, rfl⟩ := affords
          rfl
      | worked | read =>
          cases affords
          rfl
      | took event =>
          obtain ⟨mail, _, rfl⟩ := affords
          rfl
  | desert => exact Or.inl (kept (advanceConsole_seats _ _))

theorem Passes.attentive (passes : server.Passes label after) (orderly : server.Orderly)
    (attentive : server.Attentive) : after.Attentive := by
  intro id seat found inbox
  rcases passes.inbox found inbox with ⟨earlier, seated, had⟩ | opened
  · rcases passes.isOpen orderly (attentive id earlier seated had) with opened | unheard
    · exact opened
    · cases inbox.symm.trans (unheard.seat seat found)
  · exact opened

end Server

namespace Venue

open Server Terminal

variable {config : Config} {venue start : Venue} {owner : ClientId}

theorem play_attentive (deeds : List Deed) (orderly : venue.server.Orderly)
    (attentive : venue.server.Attentive) : (venue.play deeds).server.Attentive := by
  induction deeds generalizing venue with
  | nil => exact attentive
  | cons deed rest ih =>
      obtain ⟨label, passes, -⟩ := perform_shows venue deed
      exact ih (perform_orderly deed orderly) (passes.attentive orderly attentive)

theorem start_attentive (started : start? config = some start) : start.server.Attentive := by
  obtain ⟨-, rfl⟩ := start?_some started
  exact nofun

/-! ## The accord stays -/

theorem attend_consistent {seat : Seat} (mode : Mode) (sink : Sink) (now : Timestamp)
    (orderly : venue.server.Orderly) (consistent : Consistent config venue)
    (found : venue.server.seat? owner = some seat) (held : seat.hasHandle = true) :
    Consistent config { venue with server := { venue.server with
      seats := venue.server.seats.filter (·.session.id ≠ owner)
      consoles := venue.server.consoles ++ [Console.create seat.session mode sink now] } } := by
  have after : Server.Orderly _ := @Server.Orderly.attend _ _ _ mode sink now orderly found held
  refine ⟨consistent.defaultRoom, ?_, ?_, ?_, consistent.unopened⟩
  · rw [parties_ids]
    exact after.once
  · intro party listed
    have ids := List.mem_map_of_mem (f := (·.1.id)) listed
    rw [parties_ids] at ids
    exact after.given _ ids
  · intro party listed
    have still (before : party ∈ venue.parties) : Accords config venue.server party.1 party.2 :=
      consistent.accords party before
    rcases List.mem_append.mp listed with in_seat | in_console
    · obtain ⟨other, seated, rfl⟩ := List.mem_map.mp in_seat
      have before := (List.mem_filter.mp seated).1
      exact (still (List.mem_append_left _ (List.mem_map.mpr ⟨other, before, rfl⟩))).frame
        fun _ foretold => foretold
    · obtain ⟨console, present, rfl⟩ := List.mem_map.mp in_console
      rcases List.mem_append.mp present with before | new
      · exact (still (List.mem_append_right _ (List.mem_map.mpr ⟨console, before, rfl⟩))).frame
          fun _ foretold => foretold
      · rw [List.mem_singleton.mp new]
        refine ⟨(accords_of_seat consistent found).foretold, ?_⟩
        rw [create_moves]
        exact underway_of_wish seat.session now .connect

theorem perform_consistent (deed : Deed) (orderly : venue.server.Orderly)
    (consistent : Consistent config venue) : Consistent config (venue.perform deed) := by
  cases deed with
  | attend owner mode sink now =>
      rw [perform]
      split
      · unfold Server.attend
        split
        · exact consistent
        · rename_i seat filtered
          obtain ⟨found, both⟩ := Option.filter_eq_some_iff.mp filtered
          exact attend_consistent mode sink now orderly consistent found
            (Bool.and_eq_true_iff.mp both).1
      · exact consistent
  | act act =>
      by_cases polls : ∃ owner, act = .poll owner
      · obtain ⟨owner, rfl⟩ := polls
        rw [perform]
        split
        · exact step_consistent (.poll owner) consistent
        · exact consistent
      · have same : venue.perform (.act act) = venue.step act := by
          cases act with
          | poll owner => exact absurd ⟨owner, rfl⟩ polls
          | openSession | openSessionIn | openConsole | begin | proceed | abandon | turn
          | dropHandle | dropInbox | feed | endInput | stop => rfl
        rw [same]
        exact step_consistent act consistent

/-- However sessions change hands between callers and consoles, each stays in accord with the
hub. -/
theorem play_consistent (deeds : List Deed) (orderly : venue.server.Orderly)
    (consistent : Consistent config venue) : Consistent config (venue.play deeds) := by
  induction deeds generalizing venue with
  | nil => exact consistent
  | cons deed rest ih =>
      exact ih (perform_orderly deed orderly) (perform_consistent deed orderly consistent)

end Venue
end ChatRooms
