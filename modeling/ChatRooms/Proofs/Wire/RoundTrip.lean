import ChatRooms.Proofs.Json.ReadBack
import ChatRooms.Proofs.Timestamp.RoundTrip
import ChatRooms.Wire.Command

/-! What is written is read back: every event and every command decodes from its own JSON text to
what it was, with its stamp as it is written. The members are gathered before their meaning is
known, so the tag and the members are read back first, and then each kind of value finds its fields
among them. -/
namespace ChatRooms

def DirectMessage.asWritten (letter : DirectMessage) : DirectMessage :=
  { letter with sentAt := letter.sentAt.asWritten }

def Event.stamp? : Event → Option Timestamp
  | .broadcast post => some post.sentAt
  | .system _ at_ => some at_
  | .users _ => none
  | .direct letter => some letter.sentAt

def Event.IsRegular (event : Event) : Prop :=
  ∀ at_ ∈ event.stamp?, at_.IsRegular

def Event.asWritten : Event → Event
  | .broadcast post => .broadcast { post with sentAt := post.sentAt.asWritten }
  | .system notice at_ => .system notice at_.asWritten
  | .users names => .users names
  | .direct letter => .direct letter.asWritten

def Command.stamp? : Command → Option Timestamp
  | .direct letter => some letter.sentAt
  | .connect _ _ | .disconnect | .post _ _ _ | .listUsers _ => none

def Command.IsRegular (command : Command) : Prop :=
  ∀ at_ ∈ command.stamp?, at_.IsRegular

def Command.asWritten : Command → Command
  | .direct letter => .direct letter.asWritten
  | other => other

theorem DirectMessage.asWritten_eq_iff (letter : DirectMessage) :
    letter.asWritten = letter ↔ letter.sentAt.IsRegular := by
  rw [← Timestamp.asWritten_eq_iff]
  exact ⟨congrArg DirectMessage.sentAt, fun same => by rw [DirectMessage.asWritten, same]⟩

theorem Event.asWritten_eq_iff (event : Event) :
    event.asWritten = event ↔ event.IsRegular := by
  unfold IsRegular
  cases event with
  | broadcast post =>
      obtain ⟨author, content, room, sentAt⟩ := post
      simp [Event.asWritten, Event.stamp?, Timestamp.asWritten_eq_iff]
  | system notice at_ => simp [Event.asWritten, Event.stamp?, Timestamp.asWritten_eq_iff]
  | users names => simp [Event.asWritten, Event.stamp?]
  | direct letter => simp [Event.asWritten, Event.stamp?, DirectMessage.asWritten_eq_iff]

theorem Command.asWritten_eq_iff (command : Command) :
    command.asWritten = command ↔ command.IsRegular := by
  unfold IsRegular
  cases command with
  | direct letter => simp [Command.asWritten, Command.stamp?, DirectMessage.asWritten_eq_iff]
  | connect | disconnect | post | listUsers => simp [Command.asWritten, Command.stamp?]

namespace Wire

open Json

/-- A member that is not the tag and is read back inside a tagged value. -/
def IsField (member : String × Json) : Prop :=
  member.1 ≠ tagName ∧ Reads (value (maxDepth - 1)) (print member.2) member.2

theorem isField_string (name text : String) : IsField (name, .string text) ↔ name ≠ tagName :=
  ⟨fun field => field.1, fun other => ⟨other, value_string _ text⟩⟩

theorem isField_strings (name : String) (texts : List String) :
    IsField (name, .array (texts.map .string)) ↔ name ≠ tagName :=
  ⟨fun field => field.1, fun other => ⟨other, value_strings 125 texts⟩⟩

theorem takeMember_field {tags : List String} {entry : String × Json} (field : IsField entry)
    (state : Option String × List (String × Json)) :
    Reads (takeMember tags state entry.1) (':' :: print entry.2)
      (state.1, state.2 ++ [entry]) := by
  intro rest
  rw [List.cons_append, takeMember, if_neg field.1]
  simp only [member, colon_cons, bind, Except.bind, field.2 rest, pure, Except.pure]

theorem takeMember_tag {tags : List String} {tag : String} (known : tags.contains tag = true)
    (rest : List Char) :
    takeMember tags (none, []) tagName (':' :: (printString tag ++ rest)) =
      .ok ((some tag, []), rest) := by
  have checked : checkedString (tags.contains ·) (printString tag ++ rest) =
      .ok (tag, rest) := by
    rw [printString_append, checkedString, skipSpace_cons (by decide)]
    simp only [bind, Except.bind, quotedString_escaped, known, ↓reduceIte, pure, Except.pure]
  simp only [takeMember, ↓reduceIte, Option.isSome_none, Bool.false_eq_true, bind, Except.bind,
    colon_cons, checked, pure, Except.pure]

theorem foldl_gather (tag : Option String) (before pairs : List (String × Json)) :
    pairs.foldl (fun state entry => (state.1, state.2 ++ [entry])) (tag, before) =
      (tag, before ++ pairs) := by
  induction pairs generalizing before with
  | nil => simp
  | cons entry rest ih => simp [ih]

theorem members_tagged {tags : List String} {tag : String} {pairs : List (String × Json)}
    (known : tags.contains tag = true) (fields : ∀ pair ∈ pairs, IsField pair) {fuel : Nat}
    (enough : pairs.length < fuel) (rest : List Char) :
    members (takeMember tags) (fuel + 1) true (none, [])
        (commaSeparated (printMembers ((tagName, .string tag) :: pairs)) ++ '\x7d' :: rest) =
      .ok ((some tag, pairs), rest) := by
  have later := members_later (takeMember tags)
    (fun entry listed state => takeMember_field (fields entry listed) state) enough
    (some tag, []) rest
  rw [foldl_gather] at later
  rw [printMembers_eq, List.map_cons, commaSeparated_cons, List.flatMap_map, List.append_assoc,
    List.append_assoc, members, nextEntry_first (printString_opens _) (Or.inr rfl)]
  simp only [bind, Except.bind, key_printed tagName _, print, List.cons_append,
    takeMember_tag known, later, List.nil_append]

/-- A tagged value is read as its tag and its other members, in the order in which they stand. -/
theorem readTagged_printed {tags : List String} {tag : String} {pairs : List (String × Json)}
    (known : tags.contains tag = true) (fields : ∀ pair ∈ pairs, IsField pair) :
    readTagged tags (print (.object ((tagName, .string tag) :: pairs))) =
      .ok (⟨tag, .members pairs⟩, []) := by
  have enough : pairs.length <
      (commaSeparated (printMembers ((tagName, .string tag) :: pairs)) ++ ['\x7d']).length := by
    have long := length_le_commaSeparated (printMembers ((tagName, .string tag) :: pairs)) (by
      rw [printMembers_eq]
      intro entry listed
      obtain ⟨pair, _, rfl⟩ := List.mem_map.mp listed
      exact (printString_opens pair.1).append _)
    simp only [printMembers_eq, List.length_map, List.length_cons, List.length_append] at long ⊢
    omega
  rw [print, readTagged, skipSpace_cons (by decide)]
  simp only [bind, Except.bind, members_tagged known fields enough [], pure, Except.pure]

/-- A document of a tagged value is read as what its members say. -/
theorem readDocument_render {α : Type} {tags : List String} {ofTagged? : Tagged → Option α}
    {tag : String} {pairs : List (String × Json)} {found : α}
    (known : tags.contains tag = true) (fields : ∀ pair ∈ pairs, IsField pair)
    (means : ofTagged? ⟨tag, .members pairs⟩ = some found) :
    readDocument tags ofTagged? (Json.object ((tagName, .string tag) :: pairs)).render =
      .ok found := by
  simp only [readDocument, whole, render, String.toList_ofList, bind, Except.bind,
    readTagged_printed known fields, means, pure, Except.pure]
  rfl

theorem mapM_of_each {α β : Type} {find : α → Option β} {found : α → β} {elements : List α}
    (each : ∀ element ∈ elements, find element = some (found element)) :
    elements.mapM find = some (elements.map found) := by
  induction elements with
  | nil => rfl
  | cons element rest ih =>
      rw [List.mapM_cons, each element List.mem_cons_self,
        ih fun other listed => each other (List.mem_cons_of_mem _ listed)]
      rfl

theorem filter_name {pairs : List (String × Json)} (distinct : (pairs.map (·.1)).Nodup)
    {pair : String × Json} (listed : pair ∈ pairs) :
    pairs.filter (·.1 = pair.1) = [pair] := by
  induction pairs with
  | nil => contradiction
  | cons first rest ih =>
      obtain ⟨absent, rest_distinct⟩ := List.nodup_cons.mp distinct
      rcases List.mem_cons.mp listed with rfl | later
      · have no_more : rest.filter (·.1 = pair.1) = [] := by
          apply List.filter_eq_nil_iff.mpr
          intro other present same
          exact absent (List.mem_map.mpr ⟨other, present, by simpa using same⟩)
        simp [no_more]
      · have apart : first.1 ≠ pair.1 := fun same =>
          absent (List.mem_map.mpr ⟨pair, later, same.symm⟩)
        simpa [apart] using ih rest_distinct later

/-- Fields of distinct names are found as they were given. -/
theorem fields?_self {pairs : List (String × Json)} {names : List String}
    (named : pairs.map (·.1) = names) (distinct : names.Nodup) :
    (Body.members pairs).fields? names = some (pairs.map fun pair => some pair.2) := by
  subst named
  rw [Body.fields?, List.mapM_map]
  refine mapM_of_each fun pair listed => ?_
  simp only [Function.comp_apply, filter_name distinct listed]

@[simp] theorem stringField?_string (text : String) :
    stringField? (some (.string text)) = some text := rfl

@[simp] theorem stringOrEmpty?_string (text : String) :
    stringOrEmpty? (some (.string text)) = some text := rfl

@[simp] theorem stampField?_text (at_ : Timestamp) :
    stampField? (some (.string at_.text)) = some at_.asWritten := by
  simp [stampField?, Timestamp.ofText?_text]

@[simp] theorem namesField?_strings (names : List String) :
    namesField? (some (.array (names.map .string))) = some names := by
  have each : ∀ name ∈ names, string? (.string name) = some (id name) := fun _ _ => rfl
  rw [namesField?, List.mapM_map]
  exact (mapM_of_each each).trans (by rw [List.map_id])

/-! Events -/

theorem eventMembers_fields (event : Event) :
    ∀ member ∈ (eventMembers event).tail, IsField member := by
  cases event <;>
    simp [eventMembers, letterMembers, isField_string, isField_strings, tagName]

theorem letterOfBody?_letterMembers (letter : DirectMessage) :
    letterOfBody? (.members (letterMembers letter)) = some letter.asWritten := by
  rw [letterOfBody?, fields?_self]
  · simp [letterMembers, DirectMessage.asWritten]
  · rfl
  · decide

theorem broadcastOfBody?_members (post : Broadcast) :
    broadcastOfBody? (.members (eventMembers (.broadcast post)).tail) =
      some { post with sentAt := post.sentAt.asWritten } := by
  rw [broadcastOfBody?, fields?_self]
  · simp [eventMembers]
  · rfl
  · decide

theorem systemOfBody?_members (notice : String) (at_ : Timestamp) :
    systemOfBody? (.members (eventMembers (.system notice at_)).tail) =
      some (.system notice at_.asWritten) := by
  rw [systemOfBody?, fields?_self]
  · simp [eventMembers]
  · rfl
  · decide

theorem usersOfBody?_members (names : List String) :
    usersOfBody? (.members (eventMembers (.users names)).tail) = some (.users names) := by
  rw [usersOfBody?, fields?_self]
  · simp [eventMembers]
  · rfl
  · decide

theorem readEvent_renderEvent (event : Event) :
    readEvent (renderEvent event) = .ok event.asWritten := by
  have fields := eventMembers_fields event
  cases event with
  | broadcast post =>
      apply readDocument_render (by decide) fields
      simp [eventOfTagged?, Event.asWritten, broadcastOfBody?_members]
  | system notice at_ =>
      apply readDocument_render (by decide) fields
      simp [eventOfTagged?, Event.asWritten, systemOfBody?_members]
  | users names =>
      apply readDocument_render (by decide) fields
      simp [eventOfTagged?, Event.asWritten, usersOfBody?_members]
  | direct letter =>
      apply readDocument_render (by decide) fields
      simp [eventOfTagged?, Event.asWritten, eventMembers, letterOfBody?_letterMembers]

/-! Commands -/

theorem commandMembers_fields (command : Command) :
    ∀ member ∈ (commandMembers command).tail, IsField member := by
  cases command <;> simp [commandMembers, letterMembers, isField_string, tagName]

theorem connectOfBody?_members (user room : String) :
    connectOfBody? (.members (commandMembers (.connect user room)).tail) =
      some (.connect user room) := by
  rw [connectOfBody?, fields?_self]
  · simp [commandMembers]
  · rfl
  · decide

theorem postOfBody?_members (user content room : String) :
    postOfBody? (.members (commandMembers (.post user content room)).tail) =
      some (.post user content room) := by
  rw [postOfBody?, fields?_self]
  · simp [commandMembers]
  · rfl
  · decide

theorem listOfBody?_members (room : String) :
    listOfBody? (.members (commandMembers (.listUsers room)).tail) = some (.listUsers room) := by
  rw [listOfBody?, fields?_self]
  · simp [commandMembers]
  · rfl
  · decide

theorem readCommand_renderCommand (command : Command) :
    readCommand (renderCommand command) = .ok command.asWritten := by
  have fields := commandMembers_fields command
  cases command with
  | connect user room =>
      apply readDocument_render (by decide) fields
      simp [commandOfTagged?, Command.asWritten, connectOfBody?_members]
  | disconnect =>
      apply readDocument_render (by decide) fields
      simp [commandOfTagged?, Command.asWritten, commandMembers, Body.isEmpty]
  | post user content room =>
      apply readDocument_render (by decide) fields
      simp [commandOfTagged?, Command.asWritten, postOfBody?_members]
  | direct letter =>
      apply readDocument_render (by decide) fields
      simp [commandOfTagged?, Command.asWritten, commandMembers, letterOfBody?_letterMembers]
  | listUsers room =>
      apply readDocument_render (by decide) fields
      simp [commandOfTagged?, Command.asWritten, listOfBody?_members]

/-- Every event and every command is read from its own JSON text, with its stamp as that is written:
so it comes back as it was exactly if its stamp, when it has one, is in no leap second or in one at
the end of a minute. The stamps that are so are those that are made of a count of seconds, and those
that are read from a text. -/
theorem wire_round_trip :
    (∀ event : Event, readEvent (renderEvent event) = .ok event.asWritten ∧
      (readEvent (renderEvent event) = .ok event ↔ event.IsRegular)) ∧
    (∀ command : Command, readCommand (renderCommand command) = .ok command.asWritten ∧
      (readCommand (renderCommand command) = .ok command ↔ command.IsRegular)) ∧
    ∀ at_ : Timestamp,
      (at_.IsRegular ↔ ∃ second nanosecond, Timestamp.ofUnix? second nanosecond = some at_) ∧
      (at_.IsRegular ↔ ∃ text, Timestamp.ofText? text = some at_) := by
  refine ⟨fun event => ⟨readEvent_renderEvent event, ?_⟩,
    fun command => ⟨readCommand_renderCommand command, ?_⟩,
    fun at_ => ⟨at_.isRegular_iff_ofUnix?, at_.isRegular_iff_ofText?⟩⟩
  · rw [readEvent_renderEvent, Except.ok.injEq, event.asWritten_eq_iff]
  · rw [readCommand_renderCommand, Except.ok.injEq, command.asWritten_eq_iff]

theorem stray_leap_second_moves :
    readEvent (renderEvent (.system "tick" .stray)) =
        .ok (.system "tick" ⟨1435708565, 333000000, by decide, by decide, by decide⟩) ∧
      ¬∀ event : Event, readEvent (renderEvent event) = .ok event := by
  refine ⟨readEvent_renderEvent _, fun same => ?_⟩
  have back := same (.system "tick" .stray)
  rw [readEvent_renderEvent, Except.ok.injEq, Event.asWritten_eq_iff] at back
  exact absurd (back _ rfl) (by decide)

end Wire
end ChatRooms
