import ChatRooms.History

/-! What a message changes in the history: its own room, at the end, with the oldest messages making
way. -/
namespace ChatRooms.History

theorem trimmed_sublist (capacity : Nat) (posts : List Broadcast) :
    (trimmed capacity posts).Sublist posts :=
  List.drop_sublist _ _

theorem recent_push (history : History) (post : Broadcast) (room : String) :
    (history.push post).recent room =
      if room = post.room then trimmed history.capacity (history.recent room ++ [post])
      else history.recent room := by
  by_cases same : room = post.room
  · simp [push, recent, same]
  · have kept : (history.rooms.filter (·.1 ≠ post.room)).find? (·.1 = room) =
        history.rooms.find? (·.1 = room) := by
      rw [List.find?_filter]
      congr 1
      funext entry
      by_cases hit : entry.1 = room <;> simp [hit, same]
    simp only [push, recent, List.find?_cons, Ne.symm same, decide_false, same, ↓reduceIte, kept]

theorem mem_recent_push {history : History} {post other : Broadcast} {room : String}
    (kept : other ∈ (history.push post).recent room) :
    other ∈ history.recent room ∨ (other = post ∧ room = post.room) := by
  rw [recent_push] at kept
  split at kept
  · rename_i same
    rcases List.mem_append.mp ((trimmed_sublist _ _).subset kept) with before | added
    · exact Or.inl before
    · exact Or.inr ⟨by simpa using added, same⟩
  · exact Or.inl kept

theorem length_trimmed_eq (capacity : Nat) (posts : List Broadcast) :
    (trimmed capacity posts).length = min capacity posts.length := by
  rw [trimmed, List.length_drop]
  omega

theorem length_trimmed (capacity : Nat) (posts : List Broadcast) :
    (trimmed capacity posts).length ≤ capacity := by
  rw [length_trimmed_eq]
  exact Nat.min_le_left _ _

theorem length_recent_push {history : History} {bound : Nat} (post : Broadcast) (room : String)
    (fits : history.capacity ≤ bound) (before : (history.recent room).length ≤ bound) :
    ((history.push post).recent room).length ≤ bound := by
  rw [recent_push]
  split
  · exact Nat.le_trans (length_trimmed _ _) fits
  · exact before

end ChatRooms.History
