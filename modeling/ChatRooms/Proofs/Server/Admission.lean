import ChatRooms.Proofs.Server.Replay

/-! Which settings a server can be run with. The check of the settings refuses what is too small and
nothing else, while mailboxes have a largest capacity; so settings can pass it with which the hub
does not start, or starts and has no mailbox for any session. How large they may be is told here,
and that nothing which happens on the server changes it. -/
namespace ChatRooms

namespace Mailbox

theorem admits_iff {capacity : Nat} :
    admits capacity = true ↔ 1 ≤ capacity ∧ capacity ≤ maxCapacity := by
  simp [admits]

theorem create?_isSome {α : Type} (capacity : Nat) :
    (create? (α := α) capacity).isSome = admits capacity := by
  unfold create?
  cases admits capacity <;> rfl

end Mailbox

namespace Config

variable {config : Config}

theorem check_eq_ok_iff : config.check = .ok () ↔
    (Text.trimChars config.defaultRoom.toList).isEmpty = false ∧ 1 ≤ config.historySize ∧
      1 ≤ config.hubCapacity ∧ 1 ≤ config.clientCapacity := by
  unfold check
  split
  · simp_all
  · split
    · simp_all
    · split
      · simp_all
      · split
        · simp_all
        · simp_all
          omega

-- A session's mailbox is the larger one of two, each of which can be too large.
theorem sessionCapacity_le_iff : config.sessionCapacity ≤ Mailbox.maxCapacity ↔
    config.clientCapacity ≤ Mailbox.maxCapacity ∧ config.historySize < Mailbox.maxCapacity := by
  have words : Mailbox.maxCapacity < largestWord := by decide
  unfold sessionCapacity
  omega

/-- A whole history and one event more fit, unless they are more than a word can count. -/
theorem history_fits_iff : config.historySize + 1 ≤ config.sessionCapacity ↔
    config.historySize < largestWord ∨ config.historySize < config.clientCapacity := by
  unfold sessionCapacity
  omega

theorem sessionCapacity_pos (checked : config.check = .ok ()) : 1 ≤ config.sessionCapacity := by
  obtain ⟨_, _, _, client⟩ := check_eq_ok_iff.mp checked
  unfold sessionCapacity
  omega

end Config

namespace Server

variable {server : Server}

theorem start?_isSome (config : Config) :
    (start? config).isSome = Mailbox.admits config.hubCapacity := by
  rw [start?, Option.isSome_map, Loop.create?, Option.isSome_map, Channel.create?,
    Option.isSome_map, Mailbox.create?_isSome]

theorem newSession?_isSome (user room : String) :
    (server.newSession? user room).isSome = Mailbox.admits server.config.sessionCapacity := by
  rw [newSession?, Option.isSome_map, Mailroom.open?, Option.isSome_map, Channel.create?,
    Option.isSome_map, Mailbox.create?_isSome]

theorem openSessionIn?_isSome (user room : String) :
    (server.openSessionIn? user room).isSome = Mailbox.admits server.config.sessionCapacity := by
  rw [openSessionIn?, Option.isSome_map, newSession?_isSome]

end Server

namespace Venue

open Server

theorem play_settings {config : Config} {start : Venue} (deeds : List Deed)
    (started : start? config = some start) : (start.play deeds).server.config = config := by
  obtain ⟨server, opens, rfl⟩ := Option.map_eq_some_iff.mp started
  exact (play_provisioned deeds (start_provisioned opens)).settings

/-- Settings that pass their check are those of a server exactly if the mailbox of the hub is not
too large; and then, whatever happens on it, even when it has stopped, a session can be opened
exactly if neither the mailboxes asked for nor the history is too large. With such settings a whole
history and one event more always fit into the mailbox of a session; without them they can be more
than a word can count. -/
theorem opens_iff_capacities_fit (config : Config) (checked : config.check = .ok ()) :
    ((start? config).isSome = true ↔ config.hubCapacity ≤ Mailbox.maxCapacity) ∧
    (∀ start deeds user room, start? config = some start →
      ((start.play deeds).server.openSession? user room).isSome =
          ((start.play deeds).server.openSessionIn? user room).isSome ∧
        (((start.play deeds).server.openSession? user room).isSome = true ↔
          config.clientCapacity ≤ Mailbox.maxCapacity ∧
            config.historySize < Mailbox.maxCapacity)) ∧
    (config.sessionCapacity ≤ Mailbox.maxCapacity ↔
      config.clientCapacity ≤ Mailbox.maxCapacity ∧
        config.historySize < Mailbox.maxCapacity) ∧
    (config.historySize + 1 ≤ config.sessionCapacity ↔
      config.historySize < Config.largestWord ∨ config.historySize < config.clientCapacity) := by
  obtain ⟨_, _, hub, _⟩ := Config.check_eq_ok_iff.mp checked
  refine ⟨?_, ?_, Config.sessionCapacity_le_iff, Config.history_fits_iff⟩
  · rw [Venue.start?, Option.isSome_map, Server.start?_isSome, Mailbox.admits_iff]
    exact and_iff_right hub
  · intro start deeds user room started
    have settings := play_settings deeds started
    refine ⟨?_, ?_⟩
    · rw [openSession?, openSessionIn?_isSome, openSessionIn?_isSome]
    · rw [openSession?, openSessionIn?_isSome, settings, Mailbox.admits_iff,
        ← Config.sessionCapacity_le_iff]
      exact and_iff_right (Config.sessionCapacity_pos checked)

theorem opens_of_largest_capacities :
    let config : Config := ⟨"general", 2305843009213693950, 2305843009213693951,
      2305843009213693951⟩
    config.check = .ok () ∧ (start? config).isSome = true ∧
      ∀ start, start? config = some start → ∀ deeds,
        ((start.play deeds).server.openSession? "ann" "").isSome = true := by
  intro config
  have checked : config.check = .ok () := by decide +kernel
  obtain ⟨starts, opens, -⟩ := opens_iff_capacities_fit config checked
  refine ⟨checked, starts.mpr (by decide), fun start started deeds => ?_⟩
  exact (opens start deeds "ann" "" started).2.mpr (by decide)

-- One more of any of the three is too much, and the largest word is too little for a whole history.
theorem refused_of_larger_capacities :
    let hub : Config := ⟨"general", 20, 2305843009213693952, 64⟩
    let client : Config := ⟨"general", 20, 64, 2305843009213693952⟩
    let history : Config := ⟨"general", 2305843009213693951, 64, 64⟩
    let word : Config := ⟨"general", Config.largestWord, 64, 64⟩
    (hub.check = .ok () ∧ (start? hub).isNone = true) ∧
      (client.check = .ok () ∧
        ((start? client).bind fun start => start.server.openSession? "ann" "").isNone = true) ∧
      (history.check = .ok () ∧
        ((start? history).bind fun start => start.server.openSessionIn? "ann" "").isNone = true) ∧
      word.check = .ok () ∧ word.sessionCapacity < word.historySize + 1 := by
  decide +kernel

end Venue
end ChatRooms
