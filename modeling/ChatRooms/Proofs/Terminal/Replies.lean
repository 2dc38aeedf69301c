import ChatRooms.Proofs.Terminal.Happening
import ChatRooms.Proofs.Text.Trimming
import ChatRooms.Proofs.Text.Utf8
import ChatRooms.Proofs.Wire.Framing
import ChatRooms.Proofs.Wire.RoundTrip
import Mathlib.Data.List.TakeWhile

/-! What a program finds that looks for events in the output of a console, line by line. It finds
every event that is printed; and none in what the console answers to a line of input, whatever the
line was, since no line feed gets from it into an answer. -/
namespace ChatRooms

namespace Text

theorem eq_ten_of_ofNat {code : Nat} (newline : Char.ofNat code = '\n') : code = 10 := by
  by_cases valid : code.isValidChar
  · rw [← Utf8.toNat_ofNat valid, newline]
    rfl
  · rw [Char.ofNat, dif_neg valid] at newline
    contradiction

theorem lowerChar_ne_newline {c : Char} (other : c ≠ '\n') : lowerChar c ≠ '\n' := by
  have partners : ∀ run ∈ lowerRuns, 10 < run.partner := by decide +kernel
  unfold lowerChar
  split
  · rename_i run found
    intro newline
    have past := partners run (List.mem_of_find?_eq_some found)
    have code := eq_ten_of_ofNat newline
    omega
  · exact other

theorem newline_not_mem_lowerAfter {before text : List Char} (plain : '\n' ∉ text) :
    '\n' ∉ lowerAfter before text := by
  induction text generalizing before with
  | nil => exact plain
  | cons c rest ih =>
      obtain ⟨other, rest_plain⟩ := not_or.mp (List.mem_cons.not.mp plain)
      rw [lowerAfter, List.mem_append, not_or]
      refine ⟨?_, ih rest_plain⟩
      split
      · unfold lowerSigma
        split <;> decide
      · split
        · decide
        · simpa using (lowerChar_ne_newline (Ne.symm other)).symm

end Text

namespace Terminal

def eventOf? (octets : List UInt8) : Option Event :=
  match Text.Utf8.decode octets with
  | .ok text => (Wire.readEvent text).toOption
  | .error _ => none

def readBack (octets : List UInt8) : List Event :=
  (octets.splitOn newline).filterMap eventOf?

theorem eventOf?_encode (text : String) :
    eventOf? (Text.Utf8.encode text) = (Wire.readEvent text).toOption := by
  rw [eventOf?, Text.Utf8.decode_encode]

theorem readBack_newline (first second : List UInt8) :
    readBack (first ++ newline :: second) = readBack first ++ readBack second := by
  rw [readBack, List.splitOn_append_cons_self, List.filterMap_append]
  rfl

def Whole (octets : List UInt8) : Prop :=
  ∀ last ∈ octets.getLast?, last = newline

instance (octets : List UInt8) : Decidable (Whole octets) :=
  inferInstanceAs (Decidable (∀ last ∈ octets.getLast?, last = newline))

theorem whole_newline (octets : List UInt8) : Whole (octets ++ [newline]) := by
  simp [Whole]

theorem Whole.append {first second : List UInt8} (one : Whole first) (two : Whole second) :
    Whole (first ++ second) := by
  intro last found
  rw [List.getLast?_append, Option.mem_def, Option.or_eq_some_iff] at found
  rcases found with late | ⟨_, early⟩
  · exact two last late
  · exact one last early

-- The events of whole lines stay what they are, whatever follows.
theorem readBack_append {first : List UInt8} (whole : Whole first) (second : List UInt8) :
    readBack (first ++ second) = readBack first ++ readBack second := by
  rcases List.eq_nil_or_concat first with rfl | ⟨earlier, last, rfl⟩
  · rfl
  · obtain rfl : last = newline := whole last (by simp)
    have nothing : readBack [] = [] := by decide
    rw [List.concat_eq_append, List.append_assoc, List.singleton_append, readBack_newline,
      readBack_newline, nothing, List.append_nil]

theorem newline_mem_encode (text : String) :
    newline ∈ Text.Utf8.encode text ↔ '\n' ∈ text.toList :=
  Text.Utf8.mem_encode_ascii (by decide) text

theorem readBack_line {text : String} (plain : '\n' ∉ text.toList) :
    readBack (Text.Utf8.encode text) = (Wire.readEvent text).toOption.toList := by
  have one_line : newline ∉ Text.Utf8.encode text := (newline_mem_encode text).not.mpr plain
  rw [readBack, List.splitOn_eq_singleton one_line, List.filterMap_cons, eventOf?_encode]
  cases (Wire.readEvent text).toOption <;> rfl

theorem readBack_renderEvent (event : Event) :
    readBack (Text.Utf8.encode (Wire.renderEvent event)) = [event.asWritten] := by
  rw [readBack_line (Wire.newline_not_mem_renderEvent event), Wire.readEvent_renderEvent]
  rfl

/-! Answers -/

theorem joined_is_no_event (room : String) :
    (Wire.readEvent ("Joined room: " ++ room)).toOption = none := by
  have begins : ("Joined room: " ++ room).toList =
      'J' :: ("oined room: ".toList ++ room.toList) := by
    rw [String.toList_append]
    rfl
  exact Wire.readEvent_foreign begins (by decide) (by decide) (by decide)

theorem entryError_is_no_event (reason : EntryError) :
    (Wire.readEvent reason.message).toOption = none := by
  have begins : ∃ rest, reason.message.toList = 'U' :: rest := by
    cases reason with
    | joinUsage | directUsage => exact ⟨_, rfl⟩
    | unknown word =>
        have message : (EntryError.unknown word).message =
          "Unknown command: " ++ word ++ "  (type /help)" := rfl
        rw [message, String.toList_append, String.toList_append]
        exact ⟨_, rfl⟩
  obtain ⟨rest, begins⟩ := begins
  exact Wire.readEvent_foreign begins (by decide) (by decide) (by decide)

theorem help_has_no_event : readBack (Text.Utf8.encode helpText) = [] := by
  -- Line by line, as the text is put together.
  simp only [helpText, Text.Utf8.encode_append, List.append_assoc]
  iterate 5 rw [readBack_append (by decide +kernel)]
  decide +kernel

/-! Lines without a line feed inside -/

theorem nextInput_plain {pending octets rest : List UInt8} {inputEnded : Bool}
    (found : nextInput pending inputEnded = .line octets rest) :
    ∃ line, newline ∉ line ∧ (octets = line ++ [newline] ∨ octets = line) := by
  refine ⟨pending.takeWhile (· ≠ newline), ?_, ?_⟩
  · intro listed
    have other := List.mem_takeWhile_imp listed
    simp at other
  · unfold nextInput at found
    split at found
    · cases found
      exact Or.inl rfl
    · rename_i none_left
      cases inputEnded with
      | false => simp at found
      | true =>
          cases empty : pending.isEmpty with
          | true => simp [empty] at found
          | false =>
              simp only [Bool.not_true, Bool.false_eq_true, ↓reduceIte, empty] at found
              cases found
              have parted := List.takeWhile_append_dropWhile
                (p := fun octet => decide (octet ≠ newline)) (l := pending)
              rw [none_left, List.append_nil] at parted
              exact Or.inr parted.symm

theorem plain_of_newline {line : List UInt8} {text : String} (plain : newline ∉ line)
    (same : Text.Utf8.encode text = line ++ [newline]) :
    ∃ start, '\n' ∉ start ∧ text.toList = start ++ ['\n'] := by
  rcases List.eq_nil_or_concat text.toList with empty | ⟨start, last, parted⟩
  · simp [Text.Utf8.encode, empty] at same
  · rw [List.concat_eq_append] at parted
    rw [Text.Utf8.encode, parted, List.flatMap_append, List.flatMap_singleton] at same
    -- The last octet is a line feed, so the last character is.
    have feeds : newline ∈ String.utf8EncodeChar last := by
      rcases List.eq_nil_or_concat (String.utf8EncodeChar last) with none | ⟨front, octet, octets⟩
      · have some_octet := Char.utf8Size_pos last
        rw [← String.length_utf8EncodeChar, none] at some_octet
        contradiction
      · rw [octets, List.concat_eq_append] at same ⊢
        rw [← List.append_assoc] at same
        obtain ⟨_, ends⟩ := List.append_inj' same rfl
        rw [List.cons.inj ends |>.1]
        simp
    obtain rfl : last = '\n' := (Text.Utf8.sequence_encodeChar last).ascii feeds (by decide)
    refine ⟨start, ?_, parted⟩
    obtain ⟨rest, _⟩ := List.append_inj' same rfl
    intro listed
    apply plain
    rw [← rest, List.mem_flatMap]
    exact ⟨'\n', listed, by decide⟩

theorem stripLineEnd_plain {line octets : List UInt8} {text : String} (plain : newline ∉ line)
    (read : octets = line ++ [newline] ∨ octets = line)
    (decoded : Text.Utf8.decode octets = .ok text) : '\n' ∉ (stripLineEnd text).toList := by
  have same := Text.Utf8.encode_of_decode decoded
  rcases read with rfl | rfl
  · obtain ⟨start, start_plain, parted⟩ := plain_of_newline plain same
    have back : text.toList.reverse = '\n' :: start.reverse := by simp [parted]
    unfold stripLineEnd
    split
    · rename_i before head
      rw [back] at head
      obtain ⟨_, rest⟩ := List.cons.inj head
      rw [String.toList_ofList, List.mem_reverse]
      intro listed
      have inside : '\n' ∈ start.reverse := rest ▸ List.mem_cons_of_mem _ listed
      exact start_plain (List.mem_reverse.mp inside)
    · rename_i before _ head
      rw [back] at head
      obtain ⟨_, rest⟩ := List.cons.inj head
      rw [String.toList_ofList, ← rest, List.reverse_reverse]
      exact start_plain
    · rename_i no_feed
      exact absurd back (no_feed _)
  · have text_plain : '\n' ∉ text.toList := by
      rw [← newline_mem_encode, same]
      exact plain
    unfold stripLineEnd
    split
    · rename_i before head
      exact absurd (List.mem_reverse.mp (head ▸ List.mem_cons_self)) text_plain
    · rename_i before _ head
      exact absurd (List.mem_reverse.mp (head ▸ List.mem_cons_self)) text_plain
    · exact text_plain

theorem mem_of_mem_splitSpace {c : Char} {text : List Char}
    (listed : c ∈ (splitSpace text).1 ∨ c ∈ (splitSpace text).2) : c ∈ text := by
  rcases listed with first | second
  · exact (List.takeWhile_sublist _).subset first
  · exact (List.dropWhile_sublist _).subset (List.mem_of_mem_drop second)

structure PlainAnswer (parsed : Except EntryError Entry) : Prop where
  room : ∀ room, parsed = .ok (.join room) → '\n' ∉ room.toList
  error : ∀ reason, parsed = .error reason → '\n' ∉ reason.message.toList

theorem plainAnswer_of_other {entry : Entry} (other : ∀ room, entry ≠ .join room) :
    PlainAnswer (.ok entry) where
  room room same := absurd (Except.ok.inj same) (other room)
  error := by simp

theorem plainAnswer_of_error {reason : EntryError} (plain : '\n' ∉ reason.message.toList) :
    PlainAnswer (.error reason) where
  room := by simp
  error _ same := Except.error.inj same ▸ plain

theorem ofWord_plain {word : String} {first second : List Char} (word_plain : '\n' ∉ word.toList)
    (first_plain : '\n' ∉ first) : PlainAnswer (Entry.ofWord word first second) := by
  have unknown : '\n' ∉ (EntryError.unknown word).message.toList := by
    have message : (EntryError.unknown word).message =
      "Unknown command: " ++ word ++ "  (type /help)" := rfl
    rw [message, String.toList_append, String.toList_append, List.mem_append, List.mem_append,
      not_or, not_or]
    exact ⟨⟨by decide, word_plain⟩, by decide⟩
  unfold Entry.ofWord
  split_ifs
  · exact plainAnswer_of_other (by simp)
  · exact plainAnswer_of_other (by simp)
  · exact plainAnswer_of_other (by simp)
  · exact plainAnswer_of_error (by decide)
  · refine ⟨fun room same => ?_, by simp⟩
    cases same
    rwa [String.toList_ofList]
  · exact plainAnswer_of_error (by decide)
  · exact plainAnswer_of_other (by simp)
  · exact plainAnswer_of_error unknown

theorem ofSlashed_plain {text : List Char} (plain : '\n' ∉ text) :
    PlainAnswer (Entry.ofSlashed text) := by
  refine ofWord_plain ?_ ?_
  · rw [Text.lowercase, String.toList_ofList, String.toList_ofList]
    exact Text.newline_not_mem_lowerAfter fun listed =>
      plain (mem_of_mem_splitSpace (Or.inl listed))
  · exact fun listed => plain (mem_of_mem_splitSpace
      (Or.inr (mem_of_mem_splitSpace (Or.inl (Text.mem_of_mem_trimChars listed)))))

-- Neither a room nor the word of an unknown command has a line feed that the line does not have.
theorem parse_plain {line : String} (plain : '\n' ∉ line.toList) :
    PlainAnswer (Entry.parse line) := by
  have trimmed : '\n' ∉ Text.trimChars line.toList := fun listed =>
    plain (Text.mem_of_mem_trimChars listed)
  unfold Entry.parse Entry.ofTrimmed
  split
  · exact plainAnswer_of_other (by simp)
  · split
    · exact ofSlashed_plain trimmed
    · exact plainAnswer_of_other (by simp)

end Terminal
end ChatRooms
