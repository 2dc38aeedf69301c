import ChatRooms.Proofs.Json.Layout
import ChatRooms.Proofs.Wire.RoundTrip
import ChatRooms.Terminal.Render

/-! The time of day that an event shows. The line on the terminal starts with it, by the pattern of
a clock; the JSON text has it behind the date in the written form of the instant. Both show the face
that a clock has at that second of the day, whatever the date is and however far the second has
passed. -/
namespace ChatRooms

namespace Timestamp

open Text

/-- The face of a clock that shows these seconds in the minute of a second of the day. -/
def face (secondOfDay shown : Nat) : List Char :=
  tensAndOnes (secondOfDay / 3600) ++ ':' :: tensAndOnes (secondOfDay / 60 % 60) ++
    ':' :: tensAndOnes shown

/-- The eight characters behind the mark between date and time. -/
def timePart (written : String) : List Char :=
  ((written.toList.dropWhile (· ≠ 'T')).drop 1).take 8

theorem timeChars_eq_face (at_ : Timestamp) :
    at_.timeChars = face at_.secondOfDay at_.shownSecond :=
  at_.timeChars_eq

-- The pattern divides the fraction and the second of the hour, the written form subtracts.
theorem clock_eq_face (at_ : Timestamp) :
    at_.clock.toList = face at_.secondOfDay at_.shownSecond := by
  have fraction := at_.fraction
  have day : at_.secondOfDay < 86400 := by
    rw [secondOfDay]
    omega
  have minute : at_.secondOfDay % 3600 / 60 = at_.secondOfDay / 60 % 60 := by omega
  have leap : at_.nanosecond / 1000000000 = if at_.isLeap then 1 else 0 := by
    simp only [isLeap, decide_eq_true_eq]
    split <;> omega
  have second : at_.secondOfDay % 60 + at_.nanosecond / 1000000000 = at_.shownSecond := by
    rw [leap, shownSecond]
  have bound : at_.shownSecond < 100 := by
    rw [← second]
    omega
  simp only [clock, String.toList_ofList, clockPattern, List.flatMap_cons, List.flatMap_nil,
    ClockItem.chars, minute, second, face, padded_two bound,
    padded_two (show at_.secondOfDay / 3600 < 100 by omega),
    padded_two (show at_.secondOfDay / 60 % 60 < 100 by omega)]
  rfl

theorem shownSecond_of_isRegular {at_ : Timestamp} (regular : at_.IsRegular) :
    at_.shownSecond = if at_.isLeap then 60 else at_.secondOfDay % 60 := by
  unfold shownSecond
  split
  · rename_i leap
    have last := regular leap
    rw [secondOfDay]
    omega
  · rfl

-- The places are read off one by one, and hours and minutes make up the minute of the day.
theorem face_inj {second other shown other_shown : Nat} (day : second < 86400)
    (other_day : other < 86400) (short : shown < 100) (other_short : other_shown < 100) :
    face second shown = face other other_shown ↔
      second / 60 = other / 60 ∧ shown = other_shown := by
  constructor
  · intro same
    obtain ⟨front, last⟩ := List.append_inj same rfl
    obtain ⟨first, middle⟩ := List.append_inj front rfl
    have hours := (tensAndOnes_inj (by omega) (by omega)).mp first
    have minutes := (tensAndOnes_inj (by omega) (by omega)).mp (List.cons.inj middle).2
    have seconds := (tensAndOnes_inj short other_short).mp (List.cons.inj last).2
    exact ⟨by omega, seconds⟩
  · rintro ⟨minute, rfl⟩
    have hour : second / 3600 = other / 3600 := by omega
    rw [face, face, hour, minute]

theorem secondOfDay_lt (at_ : Timestamp) : at_.secondOfDay < 86400 := by
  rw [secondOfDay]
  omega

theorem length_timeChars (at_ : Timestamp) : at_.timeChars.length = 8 := by
  rw [timeChars_eq_face]
  rfl

theorem digit_or_colon {at_ : Timestamp} {c : Char} (shown : c ∈ at_.clock.toList) :
    isDigit c = true ∨ c = ':' := by
  simp only [clock, String.toList_ofList, List.mem_flatMap] at shown
  obtain ⟨item, listed, shown⟩ := shown
  simp only [clockPattern, List.mem_cons, List.not_mem_nil, or_false] at listed
  rcases listed with rfl | rfl | rfl | rfl | rfl
  · exact .inl (isDigit_of_mem_padded shown)
  · exact .inr (List.mem_singleton.mp shown)
  · exact .inl (isDigit_of_mem_padded shown)
  · exact .inr (List.mem_singleton.mp shown)
  · exact .inl (isDigit_of_mem_padded shown)

theorem mark_not_mem_dateChars {date : Calendar.Date} (month : date.month < 100)
    (day : date.day < 100) : 'T' ∉ dateChars date := by
  have no_number (width value : Nat) : 'T' ∉ padded width value := fun listed =>
    absurd (isDigit_of_mem_padded listed) (by decide)
  have no_year : 'T' ∉ yearChars date.year := by
    unfold yearChars
    split
    · exact no_number _ _
    · split <;> simp [no_number]
  rw [dateChars, ← padded_two month, ← padded_two day]
  simp [no_year, no_number]

theorem timePart_text (at_ : Timestamp) : timePart at_.text = at_.timeChars := by
  obtain ⟨valid, _⟩ := Calendar.dateOf_spec (at_.second / 86400 + Calendar.epoch)
  have bounds : at_.date.month ≤ 12 ∧ at_.date.day ≤ 31 := Calendar.bounds_of_valid valid
  have date : ∀ c ∈ dateChars at_.date, c ≠ 'T' := fun c listed same =>
    mark_not_mem_dateChars (by omega) (by omega) (same ▸ listed)
  simp only [timePart, text, String.toList_ofList, chars, List.append_assoc, List.cons_append]
  rw [List.dropWhile_append_of_pos (by simpa using date), List.dropWhile_cons_of_neg (by decide),
    List.drop_one, List.tail_cons, List.take_left' at_.length_timeChars]

end Timestamp

namespace Wire

open Json

def stampText? (text : String) : Option String := do
  let found ← (parse text).toOption
  let field ← (found.member? "sent_at").or (found.member? "at")
  field.string?

theorem parse_renderEvent {event : Event} {at_ : Timestamp} (stamped : event.stamp? = some at_) :
    parse (renderEvent event) = .ok (eventJson event) := by
  apply parse_document (document_render _)
  cases event with
  | broadcast post => simp [eventMembers, spells_text]
  | system notice at_ => simp [eventMembers, spells_text]
  | users names => contradiction
  | direct letter => simp [eventMembers, letterMembers, spells_text]

theorem stampText?_renderEvent {event : Event} {at_ : Timestamp}
    (stamped : event.stamp? = some at_) : stampText? (renderEvent event) = some at_.text := by
  rw [stampText?, parse_renderEvent stamped]
  cases event with
  | users names => contradiction
  | broadcast | system | direct =>
      cases stamped
      rfl

end Wire

namespace Terminal

def bracketed? (line : String) : Option (List Char) :=
  match line.toList with
  | '[' :: rest => some (rest.takeWhile (· ≠ ']'))
  | _ => none

theorem bracketed?_stamp (at_ : Timestamp) (rest : String) :
    bracketed? (stamp at_ ++ rest) = some at_.clock.toList := by
  have inside : ∀ c ∈ at_.clock.toList, c ≠ ']' := by
    rintro c shown rfl
    rcases Timestamp.digit_or_colon shown with digit | colon
    · exact absurd digit (by decide)
    · exact absurd colon (by decide)
  have line : (stamp at_ ++ rest).toList =
      '[' :: (at_.clock.toList ++ ']' :: ' ' :: rest.toList) := by
    simp [stamp]
  have stops : (at_.clock.toList ++ ']' :: ' ' :: rest.toList).takeWhile (· ≠ ']') =
      at_.clock.toList := by
    rw [List.takeWhile_append_of_pos (by simpa using inside),
      List.takeWhile_cons_of_neg (by decide), List.append_nil]
  rw [bracketed?, line]
  exact congrArg some stops

theorem bracketed?_render {event : Event} {at_ : Timestamp} (stamped : event.stamp? = some at_)
    (room : String) : bracketed? (render event room) = some at_.clock.toList := by
  cases event with
  | users names => contradiction
  | broadcast | system | direct =>
      cases stamped
      simp only [render, String.append_assoc, bracketed?_stamp]

/-- An event shows the same time of day on the terminal as behind the date in its JSON text: the
face of a clock at the second of its day, with one more second for a leap second, which makes it 60
at the end of a minute. Two events show the same time exactly if their instants are in the same
minute of a day and show the same second of it. -/
theorem clocks_agree {event : Event} {at_ : Timestamp} (stamped : event.stamp? = some at_)
    (room : String) :
    ∃ written, Wire.stampText? (Wire.renderEvent event) = some written ∧
      bracketed? (render event room) = some (Timestamp.timePart written) ∧
      Timestamp.timePart written = Timestamp.face at_.secondOfDay
        (at_.secondOfDay % 60 + if at_.isLeap then 1 else 0) ∧
      (at_.IsRegular → Timestamp.timePart written =
        Timestamp.face at_.secondOfDay (if at_.isLeap then 60 else at_.secondOfDay % 60)) ∧
      ∀ (other : Event) (other_at : Timestamp), other.stamp? = some other_at → ∀ other_room,
        (bracketed? (render other other_room) = bracketed? (render event room) ↔
          other_at.secondOfDay / 60 = at_.secondOfDay / 60 ∧
            other_at.shownSecond = at_.shownSecond) := by
  refine ⟨at_.text, Wire.stampText?_renderEvent stamped, ?_, ?_, ?_, ?_⟩
  · rw [bracketed?_render stamped, Timestamp.timePart_text, Timestamp.clock_eq_face,
      Timestamp.timeChars_eq_face]
  · rw [Timestamp.timePart_text, Timestamp.timeChars_eq_face]
    rfl
  · intro regular
    rw [Timestamp.timePart_text, Timestamp.timeChars_eq_face,
      Timestamp.shownSecond_of_isRegular regular]
  · intro other other_at other_stamped other_room
    have short := at_.shownSecond_le
    have other_short := other_at.shownSecond_le
    rw [bracketed?_render stamped, bracketed?_render other_stamped, Option.some_inj,
      Timestamp.clock_eq_face, Timestamp.clock_eq_face,
      Timestamp.face_inj other_at.secondOfDay_lt at_.secondOfDay_lt (by omega) (by omega)]

theorem clocks_agree_of_leap_seconds :
    let early : Timestamp := ⟨-62167219201, 1500000000, by decide, by decide, by decide⟩
    let late : Timestamp := ⟨1483228799, 1000000000, by decide, by decide, by decide⟩
    let event := Event.left "bob" "den" early
    let letter := Event.direct ⟨"ann", "bob", "psst", late⟩
    event.stamp? = some early ∧ letter.stamp? = some late ∧
      Wire.stampText? (Wire.renderEvent event) = some "-0001-12-31T23:59:60.500Z" ∧
      bracketed? (render event "den") = some "23:59:60".toList ∧
      bracketed? (render letter "den") = bracketed? (render event "den") := by
  intro early late event letter
  obtain ⟨text, written, shown, _, _, alike⟩ :=
    clocks_agree (show event.stamp? = some early from rfl) "den"
  have read : Wire.stampText? (Wire.renderEvent event) = some "-0001-12-31T23:59:60.500Z" := by
    decide +kernel
  rw [read] at written
  cases written
  refine ⟨rfl, rfl, read, ?_, (alike letter late rfl "den").mpr (by decide)⟩
  rw [shown]
  decide +kernel

/-- A leap second within a minute shows as the second after it. -/
theorem stray_leap_second_shows_no_sixty :
    let event := Event.system "tick" .stray
    Timestamp.stray.isLeap = true ∧
      bracketed? (render event "den") = some "23:56:05".toList ∧
      (Wire.stampText? (Wire.renderEvent event)).map Timestamp.timePart =
        some "23:56:05".toList ∧
      ¬∀ (event : Event) (at_ : Timestamp), event.stamp? = some at_ → ∀ room,
        bracketed? (render event room) = some (Timestamp.face at_.secondOfDay
          (if at_.isLeap then 60 else at_.secondOfDay % 60)) := by
  intro event
  have shown : bracketed? (render event "den") = some "23:56:05".toList := by decide +kernel
  refine ⟨by decide, shown, by decide +kernel, fun sixty => ?_⟩
  have claimed := sixty event .stray rfl "den"
  rw [shown] at claimed
  exact absurd claimed (by decide +kernel)

end Terminal
end ChatRooms
