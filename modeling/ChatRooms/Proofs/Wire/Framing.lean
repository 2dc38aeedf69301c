import ChatRooms.Proofs.Json.ReadBack
import ChatRooms.Wire.Event

/-! An event takes one line, and no line that does not begin like a tagged value is one. -/
namespace ChatRooms

namespace Json

theorem hexDigit_ne_newline : ∀ digit < 16, hexDigit digit ≠ '\n' := by decide

-- A line feed is escaped, and no escape makes one.
theorem newline_not_mem_escapeChar (c : Char) : '\n' ∉ escapeChar c := by
  unfold escapeChar
  split
  iterate 7 decide
  · rename_i other _ _
    split
    · have sixteenth := hexDigit_ne_newline (c.toNat / 16) (by omega)
      have rest := hexDigit_ne_newline (c.toNat % 16) (by omega)
      simp [Ne.symm sixteenth, Ne.symm rest]
    · simpa using fun same => other same.symm

theorem newline_not_mem_printString (text : String) : '\n' ∉ printString text := by
  simp [printString, newline_not_mem_escapeChar]

theorem newline_not_mem_commaSeparated {entries : List (List Char)}
    (plain : ∀ entry ∈ entries, '\n' ∉ entry) : '\n' ∉ commaSeparated entries := by
  cases entries with
  | nil => exact List.not_mem_nil
  | cons entry rest =>
      rw [commaSeparated_cons, List.mem_append, List.mem_flatMap]
      rintro (first | ⟨later, listed, found⟩)
      · exact plain entry List.mem_cons_self first
      · have inside : '\n' ∈ later := by simpa using found
        exact plain later (List.mem_cons_of_mem _ listed) inside

theorem newline_not_mem_strings (texts : List String) :
    '\n' ∉ print (.array (texts.map .string)) := by
  have items : '\n' ∉ commaSeparated (printItems (texts.map .string)) := by
    apply newline_not_mem_commaSeparated
    rw [printItems_eq, List.map_map]
    intro entry listed
    obtain ⟨text, _, rfl⟩ := List.mem_map.mp listed
    exact newline_not_mem_printString text
  simp [print, items]

theorem newline_not_mem_object {members : List (String × Json)}
    (plain : ∀ member ∈ members, '\n' ∉ print member.2) : '\n' ∉ print (.object members) := by
  have entries : '\n' ∉ commaSeparated (printMembers members) := by
    apply newline_not_mem_commaSeparated
    rw [printMembers_eq]
    intro entry listed
    obtain ⟨member, present, rfl⟩ := List.mem_map.mp listed
    simp [newline_not_mem_printString, plain member present]
  simp [print, entries]

end Json

namespace Wire

open Json

/-- An event takes one line: all its texts, the instants among them, are printed as strings. -/
theorem newline_not_mem_renderEvent (event : Event) : '\n' ∉ (renderEvent event).toList := by
  have text (name : String) : '\n' ∉ print (.string name) := newline_not_mem_printString name
  rw [renderEvent, eventJson, render, String.toList_ofList]
  apply newline_not_mem_object
  cases event <;> simp [eventMembers, letterMembers, text, newline_not_mem_strings]

/-- A text that begins with a character that opens neither an object nor an array is no event. -/
theorem readEvent_foreign {text : String} {c : Char} {rest : List Char}
    (begins : text.toList = c :: rest) (visible : isSpace c = false) (no_object : c ≠ '\x7b')
    (no_array : c ≠ '[') : (readEvent text).toOption = none := by
  have tagged : ∃ fault, readTagged eventTags text.toList = .error fault := by
    rw [begins, readTagged, skipSpace_cons visible]
    split
    · rename_i opens
      exact absurd (List.cons.inj opens).1 no_object
    · rename_i opens
      exact absurd (List.cons.inj opens).1 no_array
    · exact ⟨_, rfl⟩
  obtain ⟨fault, failed⟩ := tagged
  simp only [readEvent, readDocument, whole, failed]
  rfl

end Wire
end ChatRooms
