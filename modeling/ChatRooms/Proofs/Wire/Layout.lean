import ChatRooms.Proofs.Wire.Document

/-! Decoding does not depend on layout. A field is found wherever it stands, members that no field
asks for make no difference, and nothing but what is asked for is let through. -/
namespace ChatRooms.Wire

open Json

variable {tags : List String} {pairs : List (String × Json)}

/-! ## Finding the fields -/

/-- The object has these members, in any order, and no others of their names. -/
def Holds (members pairs : List (String × Json)) : Prop :=
  (pairs.filter fun pair => (members.map (·.1)).contains pair.1).Perm members

theorem Holds.filter_name {members : List (String × Json)} (holds : Holds members pairs)
    (distinct : (members.map (·.1)).Nodup) {member : String × Json} (listed : member ∈ members) :
    pairs.filter (·.1 = member.1) = [member] := by
  have named : (members.map (·.1)).contains member.1 = true :=
    List.contains_iff_mem.mpr (List.mem_map_of_mem listed)
  have among : pairs.filter (·.1 = member.1) =
      (pairs.filter fun pair => (members.map (·.1)).contains pair.1).filter
        (·.1 = member.1) := by
    rw [List.filter_filter]
    refine List.filter_congr fun pair _ => ?_
    by_cases same : pair.1 = member.1
    · simp only [same, named, decide_true, Bool.and_self]
    · simp only [same, decide_false, Bool.false_and]
  rw [among]
  have found := holds.filter (fun pair => decide (pair.1 = member.1))
  rw [Wire.filter_name distinct listed] at found
  exact List.perm_singleton.mp found

theorem tagged?_of_tag {tag : String}
    (found : pairs.filter (·.1 = tagName) = [(tagName, .string tag)])
    (known : tags.contains tag = true) :
    tagged? tags (.object pairs) = some ⟨tag, .members (pairs.filter (·.1 ≠ tagName))⟩ := by
  simp only [tagged?, found, known, ↓reduceIte]

def field? (pairs : List (String × Json)) (name : String) : Option (Option Json) :=
  match pairs.filter (·.1 = name) with
  | [] => some none
  | [(_, found)] => some (some found)
  | _ => none

theorem fields?_eq (names : List String) (pairs : List (String × Json)) :
    (Body.members pairs).fields? names = names.mapM (field? pairs) := rfl

theorem filter_untagged {name : String} (other : name ≠ tagName)
    (pairs : List (String × Json)) :
    (pairs.filter (·.1 ≠ tagName)).filter (·.1 = name) = pairs.filter (·.1 = name) := by
  rw [List.filter_filter]
  refine List.filter_congr fun pair _ => ?_
  by_cases same : pair.1 = name
  · simp [same, other]
  · simp [same]

theorem field?_untagged {name : String} (other : name ≠ tagName)
    (pairs : List (String × Json)) :
    field? (pairs.filter (·.1 ≠ tagName)) name = field? pairs name := by
  unfold field?
  rw [filter_untagged other]

/-- The fields of an object that holds them are found, whatever else it has. -/
theorem fields?_of_holds {tag : Json} {fields : List (String × Json)}
    (holds : Holds ((tagName, tag) :: fields) pairs)
    (distinct : (tagName :: fields.map (·.1)).Nodup) :
    (Body.members (pairs.filter (·.1 ≠ tagName))).fields? (fields.map (·.1)) =
      some (fields.map fun field => some field.2) := by
  rw [fields?_eq, List.mapM_map]
  refine mapM_of_each fun field listed => ?_
  have other : field.1 ≠ tagName := fun same =>
    (List.nodup_cons.mp distinct).1 (same ▸ List.mem_map_of_mem listed)
  rw [Function.comp_apply, field?_untagged other, field?,
    holds.filter_name distinct (List.mem_cons_of_mem _ listed)]

theorem tag_of_holds {tag : Json} {fields : List (String × Json)}
    (holds : Holds ((tagName, tag) :: fields) pairs)
    (distinct : (tagName :: fields.map (·.1)).Nodup) :
    pairs.filter (·.1 = tagName) = [(tagName, tag)] :=
  holds.filter_name distinct List.mem_cons_self

/-! ## Events and commands -/

def eventTag : Event → String
  | .broadcast _ => "broadcast"
  | .system _ _ => "system"
  | .users _ => "users"
  | .direct _ => "direct"

def commandTag : Command → String
  | .connect _ _ => "connect"
  | .disconnect => "disconnect"
  | .post _ _ _ => "message"
  | .direct _ => "direct_message"
  | .listUsers _ => "list_users"

theorem eventMembers_eq (event : Event) :
    eventMembers event = (tagName, .string (eventTag event)) :: (eventMembers event).tail := by
  cases event <;> rfl

theorem commandMembers_eq (command : Command) :
    commandMembers command =
      (tagName, .string (commandTag command)) :: (commandMembers command).tail := by
  cases command <;> rfl

theorem eventMembers_distinct (event : Event) : ((eventMembers event).map (·.1)).Nodup := by
  cases event <;> simp [eventMembers, letterMembers, tagName]

theorem commandMembers_distinct (command : Command) :
    ((commandMembers command).map (·.1)).Nodup := by
  cases command <;> simp [commandMembers, letterMembers, tagName]

theorem eventTag_known (event : Event) : eventTags.contains (eventTag event) = true := by
  cases event <;> simp [eventTags, eventTag]

theorem commandTag_known (command : Command) :
    commandTags.contains (commandTag command) = true := by
  cases command <;> simp [commandTags, commandTag]

theorem eventOfTagged?_of_fields {event : Event} {body : Body}
    (found : body.fields? ((eventMembers event).tail.map (·.1)) =
      some ((eventMembers event).tail.map fun field => some field.2)) :
    eventOfTagged? ⟨eventTag event, body⟩ = some event.asWritten := by
  cases event with
  | broadcast post =>
      simp only [eventMembers, List.tail_cons, List.map_cons, List.map_nil] at found
      simp [eventOfTagged?, eventTag, broadcastOfBody?, found, Event.asWritten]
  | system notice at_ =>
      simp only [eventMembers, List.tail_cons, List.map_cons, List.map_nil] at found
      simp [eventOfTagged?, eventTag, systemOfBody?, found, Event.asWritten]
  | users names =>
      simp only [eventMembers, List.tail_cons, List.map_cons, List.map_nil] at found
      simp [eventOfTagged?, eventTag, usersOfBody?, found, Event.asWritten]
  | direct letter =>
      simp only [eventMembers, letterMembers, List.tail_cons, List.map_cons, List.map_nil] at found
      simp [eventOfTagged?, eventTag, letterOfBody?, letterFields, found, Event.asWritten,
        DirectMessage.asWritten]

theorem commandOfTagged?_of_fields {command : Command} {body : Body}
    (found : body.fields? ((commandMembers command).tail.map (·.1)) =
      some ((commandMembers command).tail.map fun field => some field.2))
    (alone : command = .disconnect → body.isEmpty = true) :
    commandOfTagged? ⟨commandTag command, body⟩ = some command.asWritten := by
  cases command with
  | connect user room =>
      simp only [commandMembers, List.tail_cons, List.map_cons, List.map_nil] at found
      simp [commandOfTagged?, commandTag, connectOfBody?, found, Command.asWritten]
  | disconnect => simp [commandOfTagged?, commandTag, alone, Command.asWritten]
  | post user content room =>
      simp only [commandMembers, List.tail_cons, List.map_cons, List.map_nil] at found
      simp [commandOfTagged?, commandTag, postOfBody?, found, Command.asWritten]
  | direct letter =>
      simp only [commandMembers, letterMembers, List.tail_cons, List.map_cons, List.map_nil]
        at found
      simp [commandOfTagged?, commandTag, letterOfBody?, letterFields, found, Command.asWritten,
        DirectMessage.asWritten]
  | listUsers room =>
      simp only [commandMembers, List.tail_cons, List.map_cons, List.map_nil] at found
      simp [commandOfTagged?, commandTag, listOfBody?, found, Command.asWritten]

theorem readEvent_of_holds {event : Event} {text : String}
    (document : Document (.object pairs) text) (holds : Holds (eventMembers event) pairs) :
    readEvent text = .ok event.asWritten := by
  have distinct := eventMembers_distinct event
  rw [eventMembers_eq] at holds distinct
  rw [readEvent, readDocument_document document,
    tagged?_of_tag (tag_of_holds holds distinct) (eventTag_known event), Option.bind_some,
    eventOfTagged?_of_fields (fields?_of_holds holds distinct)]

theorem readCommand_of_holds {command : Command} {text : String}
    (document : Document (.object pairs) text) (holds : Holds (commandMembers command) pairs)
    (alone : command = .disconnect → pairs.length = 1) :
    readCommand text = .ok command.asWritten := by
  have distinct := commandMembers_distinct command
  rw [commandMembers_eq] at holds distinct
  have tagged := tag_of_holds holds distinct
  have empty : command = .disconnect →
      (Body.members (pairs.filter (·.1 ≠ tagName))).isEmpty = true := by
    intro leaves
    obtain ⟨pair, rfl⟩ := List.length_eq_one_iff.mp (alone leaves)
    have present : (tagName, Json.string (commandTag command)) ∈ [pair] :=
      (List.mem_filter.mp (tagged.symm ▸ List.mem_cons_self)).1
    obtain rfl := List.mem_singleton.mp present
    rfl
  rw [readCommand, readDocument_document document,
    tagged?_of_tag tagged (commandTag_known command), Option.bind_some,
    commandOfTagged?_of_fields (fields?_of_holds holds distinct) empty]

/-! ## Leaving out the room -/

theorem fields?_cons (name : String) (names : List String) (pairs : List (String × Json)) :
    (Body.members pairs).fields? (name :: names) =
      (field? pairs name).bind fun found =>
        ((Body.members pairs).fields? names).map (found :: ·) := by
  rw [fields?_eq, List.mapM_cons, fields?_eq]
  cases field? pairs name with
  | none => rfl
  | some found => cases names.mapM (field? pairs) <;> rfl

theorem fields?_nil (pairs : List (String × Json)) :
    (Body.members pairs).fields? [] = some [] := rfl

variable {front back : List (String × Json)}

theorem field?_beside {name : String} {member : String × Json} (other : member.1 ≠ name) :
    field? (front ++ member :: back) name = field? (front ++ back) name := by
  have skipped : (front ++ member :: back).filter (·.1 = name) =
      (front ++ back).filter (·.1 = name) := by
    rw [List.filter_append, List.filter_cons_of_neg (by simpa using other), ← List.filter_append]
  unfold field?
  rw [skipped]

theorem field?_absent {name : String} (absent : ∀ pair ∈ pairs, pair.1 ≠ name) :
    field? pairs name = some none := by
  have none : pairs.filter (·.1 = name) = [] :=
    List.filter_eq_nil_iff.mpr fun pair listed => by simpa using absent pair listed
  rw [field?, none]

theorem field?_alone {name : String} (absent : ∀ pair ∈ front ++ back, pair.1 ≠ name)
    (value : Json) : field? (front ++ (name, value) :: back) name = some (some value) := by
  have one : (front ++ (name, value) :: back).filter (·.1 = name) = [(name, value)] := by
    have none : (front ++ back).filter (·.1 = name) = [] :=
      List.filter_eq_nil_iff.mpr fun pair listed => by simpa using absent pair listed
    rw [List.filter_append, List.append_eq_nil_iff] at none
    rw [List.filter_append, List.filter_cons_of_pos (by simp), none.1, none.2, List.nil_append]
  rw [field?, one]

/-- A command of one of these tags is the same without a room as with an empty one. -/
theorem command_without_room {tag : String} (roomy : tag ∈ ["connect", "message", "list_users"])
    (absent : ∀ pair ∈ front ++ back, pair.1 ≠ "room") :
    commandOfTagged? ⟨tag, .members (front ++ ("room", .string "") :: back)⟩ =
      commandOfTagged? ⟨tag, .members (front ++ back)⟩ := by
  have given := field?_alone absent (.string "")
  have left_out := field?_absent absent
  have user : ("room", Json.string "").1 ≠ "user_name" := by decide
  have content : ("room", Json.string "").1 ≠ "content" := by decide
  simp only [List.mem_cons, List.not_mem_nil, or_false] at roomy
  rcases roomy with rfl | rfl | rfl
  · simp only [commandOfTagged?, ↓reduceIte, connectOfBody?, fields?_cons, fields?_nil,
      field?_beside user, given, left_out]
    cases field? (front ++ back) "user_name" <;> rfl
  · simp only [commandOfTagged?, String.reduceEq, ↓reduceIte, postOfBody?, fields?_cons,
      fields?_nil, field?_beside user, field?_beside content, given, left_out]
    cases field? (front ++ back) "user_name" with
    | none => rfl
    | some => cases field? (front ++ back) "content" <;> rfl
  · simp only [commandOfTagged?, String.reduceEq, ↓reduceIte, listOfBody?, fields?_cons,
      fields?_nil, given, left_out]
    rfl

theorem tagged?_beside {member : String × Json} (other : member.1 ≠ tagName) :
    tagged? tags (.object (front ++ member :: back)) =
      (tagged? tags (.object (front ++ back))).map fun found =>
        ⟨found.tag, .members (front.filter (·.1 ≠ tagName) ++
          member :: back.filter (·.1 ≠ tagName))⟩ := by
  have same : (front ++ member :: back).filter (·.1 = tagName) =
      (front ++ back).filter (·.1 = tagName) := by
    rw [List.filter_append, List.filter_cons_of_neg (by simpa using other), ← List.filter_append]
  have kept : (front ++ member :: back).filter (·.1 ≠ tagName) =
      front.filter (·.1 ≠ tagName) ++ member :: back.filter (·.1 ≠ tagName) := by
    rw [List.filter_append, List.filter_cons_of_pos (by simpa using other)]
  rw [tagged?, tagged?, same, kept]
  split
  · split <;> rfl
  · rfl

theorem tagged?_inv {found : Tagged} (tagged : tagged? tags (.object pairs) = some found) :
    pairs.filter (·.1 = tagName) = [(tagName, .string found.tag)] ∧
      found.body = .members (pairs.filter (·.1 ≠ tagName)) := by
  rw [tagged?] at tagged
  split at tagged
  · rename_i name tag only
    have named : name = tagName := by
      have present : (name, Json.string tag) ∈ pairs.filter (·.1 = tagName) :=
        only ▸ List.mem_singleton_self _
      simpa using (List.mem_filter.mp present).2
    split at tagged
    · cases tagged
      exact ⟨named ▸ only, rfl⟩
    · cases tagged
  · cases tagged

/-- The tag of an object is the one that stands in it. -/
theorem tag_of_mem {found : Tagged} (tagged : tagged? tags (.object pairs) = some found)
    {tag : String} (present : (tagName, .string tag) ∈ pairs) : found.tag = tag := by
  have filtered : (tagName, Json.string tag) ∈ pairs.filter (·.1 = tagName) :=
    List.mem_filter.mpr ⟨present, by simp⟩
  rw [(tagged?_inv tagged).1, List.mem_singleton] at filtered
  simpa using filtered.symm

theorem readCommand_without_room {tag text other : String}
    (roomy : tag ∈ ["connect", "message", "list_users"])
    (tagged : (tagName, .string tag) ∈ front ++ back)
    (absent : ∀ pair ∈ front ++ back, pair.1 ≠ "room")
    (without : Document (.object (front ++ back)) text)
    (empty : Document (.object (front ++ ("room", .string "") :: back)) other) :
    readCommand text = readCommand other := by
  rw [readCommand, readCommand, readDocument_document without, readDocument_document empty,
    tagged?_beside (by decide)]
  cases found : tagged? commandTags (.object (front ++ back)) with
  | none => rfl
  | some value =>
      obtain ⟨own, body⟩ := value
      obtain rfl : own = tag := tag_of_mem found tagged
      obtain rfl : body = _ := (tagged?_inv found).2
      have left : ∀ pair ∈ front.filter (·.1 ≠ tagName) ++ back.filter (·.1 ≠ tagName),
          pair.1 ≠ "room" := by
        intro pair listed
        rw [← List.filter_append] at listed
        exact absent pair (List.mem_filter.mp listed).1
      have same := command_without_room roomy left
      rw [← List.filter_append] at same
      simp only [Option.map_some, Option.bind_some, same]

/-! ## What is refused -/

inductive Flaw (pairs : List (String × Json)) (name : String) (required : Prop) : Prop where
  | repeated (twice : 1 < (pairs.filter (·.1 = name)).length)
  | missing (needed : required) (absent : ∀ pair ∈ pairs, pair.1 ≠ name)
  | null (given : (name, .null) ∈ pairs)

def Sound (required : Prop) (found : Option Json) : Prop :=
  (∃ value, found = some value ∧ value ≠ .null) ∨ (found = none ∧ ¬ required)

theorem sound_string {required : Prop} {found : Option Json} {text : String}
    (string : stringField? found = some text) : Sound required found := by
  unfold stringField? at string
  split at string
  · exact Or.inl ⟨_, rfl, nofun⟩
  · cases string

theorem sound_stamp {required : Prop} {found : Option Json} {at_ : Timestamp}
    (stamp : stampField? found = some at_) : Sound required found := by
  obtain ⟨text, string, -⟩ := Option.bind_eq_some_iff.mp stamp
  exact sound_string string

theorem sound_names {required : Prop} {found : Option Json} {names : List String}
    (array : namesField? found = some names) : Sound required found := by
  unfold namesField? at array
  split at array
  · exact Or.inl ⟨_, rfl, nofun⟩
  · cases array

theorem sound_or_empty {required : Prop} (optional : ¬ required) {found : Option Json}
    {text : String} (string : stringOrEmpty? found = some text) : Sound required found := by
  unfold stringOrEmpty? at string
  split at string
  · exact Or.inr ⟨rfl, optional⟩
  · exact Or.inl ⟨_, rfl, nofun⟩
  · cases string

theorem Flaw.unsound {name : String} {required : Prop} (flaw : Flaw pairs name required)
    {found : Option Json} (is : field? pairs name = some found) : ¬ Sound required found := by
  cases flaw with
  | repeated twice =>
      unfold field? at is
      split at is
      · rename_i none
        simp [none] at twice
      · rename_i one
        simp [one] at twice
      · cases is
  | missing needed absent =>
      rw [field?_absent absent] at is
      cases is
      rintro (⟨value, same, -⟩ | ⟨-, optional⟩)
      · cases same
      · exact optional needed
  | null given =>
      have listed : (name, Json.null) ∈ pairs.filter (·.1 = name) :=
        List.mem_filter.mpr ⟨given, by simp⟩
      unfold field? at is
      split at is
      · rename_i none
        simp [none] at listed
      · rename_i one
        rw [one, List.mem_singleton] at listed
        cases listed
        cases is
        rintro (⟨value, same, other⟩ | ⟨same, -⟩)
        · exact other (Option.some.inj same).symm
        · cases same
      · cases is

theorem field?_of_fields? {names : List String} {values : List (Option Json)}
    (found : (Body.members pairs).fields? names = some values) :
    List.Forall₂ (fun name value => field? pairs name = some value) names values := by
  induction names generalizing values with
  | nil =>
      cases found
      exact .nil
  | cons name names ih =>
      rw [fields?_cons] at found
      obtain ⟨value, first, found⟩ := Option.bind_eq_some_iff.mp found
      obtain ⟨values, others, rfl⟩ := Option.map_eq_some_iff.mp found
      exact .cons first (ih others)

def AllSound (optional : List String) (pairs : List (String × Json)) (names : List String) :
    Prop :=
  ∀ name ∈ names, ∃ found, field? pairs name = some found ∧ Sound (name ∉ optional) found

theorem allSound_cons {optional names : List String} {name : String} {found : Option Json}
    (is : field? pairs name = some found) (sound : Sound (name ∉ optional) found)
    (others : AllSound optional pairs names) : AllSound optional pairs (name :: names) :=
  List.forall_mem_cons.mpr ⟨⟨found, is, sound⟩, others⟩

theorem allSound_nil (optional : List String) : AllSound optional pairs [] :=
  List.forall_mem_nil _

theorem letter_sound {letter : DirectMessage} {optional : List String}
    (means : letterOfBody? (.members pairs) = some letter) :
    AllSound optional pairs letterFields := by
  obtain ⟨values, found, means⟩ := Option.bind_eq_some_iff.mp means
  have fields := field?_of_fields? found
  split at means
  · simp only [letterFields, List.forall₂_cons, List.Forall₂.nil, and_true, Option.bind_eq_bind,
      Option.bind_eq_some_iff] at fields means
    obtain ⟨author_is, recipient_is, content_is, stamp_is⟩ := fields
    obtain ⟨_, author, _, recipient, _, content, _, stamp, -⟩ := means
    exact allSound_cons author_is (sound_string author) <|
      allSound_cons recipient_is (sound_string recipient) <|
      allSound_cons content_is (sound_string content) <|
      allSound_cons stamp_is (sound_stamp stamp) (allSound_nil _)
  · cases means

theorem broadcast_sound {post : Broadcast}
    (means : broadcastOfBody? (.members pairs) = some post) :
    AllSound [] pairs ["from_user", "content", "room", "sent_at"] := by
  obtain ⟨values, found, means⟩ := Option.bind_eq_some_iff.mp means
  have fields := field?_of_fields? found
  split at means
  · simp only [List.forall₂_cons, List.Forall₂.nil, and_true, Option.bind_eq_bind,
      Option.bind_eq_some_iff] at fields means
    obtain ⟨author_is, content_is, room_is, stamp_is⟩ := fields
    obtain ⟨_, author, _, content, _, room, _, stamp, -⟩ := means
    exact allSound_cons author_is (sound_string author) <|
      allSound_cons content_is (sound_string content) <|
      allSound_cons room_is (sound_string room) <|
      allSound_cons stamp_is (sound_stamp stamp) (allSound_nil _)
  · cases means

theorem system_sound {event : Event} (means : systemOfBody? (.members pairs) = some event) :
    AllSound [] pairs ["text", "at"] := by
  obtain ⟨values, found, means⟩ := Option.bind_eq_some_iff.mp means
  have fields := field?_of_fields? found
  split at means
  · simp only [List.forall₂_cons, List.Forall₂.nil, and_true, Option.bind_eq_bind,
      Option.bind_eq_some_iff] at fields means
    obtain ⟨notice_is, stamp_is⟩ := fields
    obtain ⟨_, notice, _, stamp, -⟩ := means
    exact allSound_cons notice_is (sound_string notice) <|
      allSound_cons stamp_is (sound_stamp stamp) (allSound_nil _)
  · cases means

theorem users_sound {event : Event} (means : usersOfBody? (.members pairs) = some event) :
    AllSound [] pairs ["user_names"] := by
  obtain ⟨values, found, means⟩ := Option.bind_eq_some_iff.mp means
  have fields := field?_of_fields? found
  split at means
  · simp only [List.forall₂_cons, List.Forall₂.nil, and_true, Option.bind_eq_bind,
      Option.bind_eq_some_iff] at fields means
    obtain ⟨_, names, -⟩ := means
    exact allSound_cons fields (sound_names names) (allSound_nil _)
  · cases means

theorem connect_sound {command : Command}
    (means : connectOfBody? (.members pairs) = some command) :
    AllSound ["room"] pairs ["user_name", "room"] := by
  obtain ⟨values, found, means⟩ := Option.bind_eq_some_iff.mp means
  have fields := field?_of_fields? found
  split at means
  · simp only [List.forall₂_cons, List.Forall₂.nil, and_true, Option.bind_eq_bind,
      Option.bind_eq_some_iff] at fields means
    obtain ⟨user_is, room_is⟩ := fields
    obtain ⟨_, user, _, room, -⟩ := means
    exact allSound_cons user_is (sound_string user) <|
      allSound_cons room_is (sound_or_empty (by simp) room) (allSound_nil _)
  · cases means

theorem post_sound {command : Command} (means : postOfBody? (.members pairs) = some command) :
    AllSound ["room"] pairs ["user_name", "content", "room"] := by
  obtain ⟨values, found, means⟩ := Option.bind_eq_some_iff.mp means
  have fields := field?_of_fields? found
  split at means
  · simp only [List.forall₂_cons, List.Forall₂.nil, and_true, Option.bind_eq_bind,
      Option.bind_eq_some_iff] at fields means
    obtain ⟨user_is, content_is, room_is⟩ := fields
    obtain ⟨_, user, _, content, _, room, -⟩ := means
    exact allSound_cons user_is (sound_string user) <|
      allSound_cons content_is (sound_string content) <|
      allSound_cons room_is (sound_or_empty (by simp) room) (allSound_nil _)
  · cases means

theorem list_sound {command : Command} (means : listOfBody? (.members pairs) = some command) :
    AllSound ["room"] pairs ["room"] := by
  obtain ⟨values, found, means⟩ := Option.bind_eq_some_iff.mp means
  have fields := field?_of_fields? found
  split at means
  · simp only [List.forall₂_cons, List.Forall₂.nil, and_true, Option.bind_eq_bind,
      Option.bind_eq_some_iff] at fields means
    obtain ⟨_, room, -⟩ := means
    exact allSound_cons fields (sound_or_empty (by simp) room) (allSound_nil _)
  · cases means

theorem event_sound (event : Event) {found : Event}
    (means : eventOfTagged? ⟨eventTag event, .members pairs⟩ = some found) :
    AllSound [] pairs ((eventMembers event).tail.map (·.1)) := by
  cases event with
  | broadcast =>
      obtain ⟨_, post, -⟩ := Option.map_eq_some_iff.mp means
      exact broadcast_sound post
  | system => exact system_sound means
  | users => exact users_sound means
  | direct =>
      obtain ⟨_, letter, -⟩ := Option.map_eq_some_iff.mp means
      exact letter_sound letter

theorem command_sound (command : Command) {found : Command}
    (means : commandOfTagged? ⟨commandTag command, .members pairs⟩ = some found) :
    AllSound ["room"] pairs ((commandMembers command).tail.map (·.1)) := by
  cases command with
  | connect => exact connect_sound means
  | disconnect => exact allSound_nil _
  | post => exact post_sound means
  | direct =>
      obtain ⟨_, letter, -⟩ := Option.map_eq_some_iff.mp means
      exact letter_sound letter
  | listUsers => exact list_sound means

theorem tagged?_flawed (flaw : Flaw pairs tagName True) : tagged? tags (.object pairs) = none := by
  cases tagged : tagged? tags (.object pairs) with
  | none => rfl
  | some found =>
      have one := (tagged?_inv tagged).1
      have is : field? pairs tagName = some (some (.string found.tag)) := by rw [field?, one]
      exact absurd (Or.inl ⟨_, rfl, nofun⟩) (flaw.unsound is)

/-- An object of a kind is refused for a flaw in its tag or in a field of that kind. -/
theorem readDocument_flawed {α : Type} {ofTagged? : Tagged → Option α} {tag text : String}
    {optional names : List String}
    (sound : ∀ pairs found, ofTagged? ⟨tag, .members pairs⟩ = some found →
      AllSound optional pairs names) (untagged : tagName ∉ names) (needed : tagName ∉ optional)
    (document : Document (.object pairs) text) {name : String} (asked : name ∈ tagName :: names)
    (kind : name ≠ tagName → (tagName, .string tag) ∈ pairs)
    (flaw : Flaw pairs name (name ∉ optional)) :
    readDocument tags ofTagged? text = .error .misshapen := by
  have nothing : (tagged? tags (.object pairs)).bind ofTagged? = none := by
    rcases List.mem_cons.mp asked with rfl | field
    · have flawed : Flaw pairs tagName True := by simpa [needed] using flaw
      rw [tagged?_flawed flawed, Option.bind_none]
    · have other : name ≠ tagName := fun same => untagged (same ▸ field)
      cases tagged : tagged? tags (.object pairs) with
      | none => rfl
      | some found =>
          obtain ⟨own, body⟩ := found
          obtain rfl : own = tag := tag_of_mem tagged (kind other)
          obtain rfl : body = _ := (tagged?_inv tagged).2
          rw [Option.bind_some, Option.eq_none_iff_forall_ne_some]
          intro result means
          obtain ⟨value, is, is_sound⟩ := sound _ result means name field
          rw [field?_untagged other] at is
          exact flaw.unsound is is_sound
  rw [readDocument_document document, nothing]

theorem readEvent_flawed {event : Event} {text : String}
    (document : Document (.object pairs) text) {name : String}
    (asked : name ∈ (eventMembers event).map (·.1))
    (kind : name ≠ tagName → (tagName, .string (eventTag event)) ∈ pairs)
    (flaw : Flaw pairs name True) : readEvent text = .error .misshapen := by
  have distinct := eventMembers_distinct event
  rw [eventMembers_eq] at asked distinct
  exact readDocument_flawed (fun _ _ means => event_sound event means)
    (List.nodup_cons.mp distinct).1 List.not_mem_nil document asked kind (by simpa using flaw)

theorem readCommand_flawed {command : Command} {text : String}
    (document : Document (.object pairs) text) {name : String}
    (asked : name ∈ (commandMembers command).map (·.1))
    (kind : name ≠ tagName → (tagName, .string (commandTag command)) ∈ pairs)
    (flaw : Flaw pairs name (name ≠ "room")) : readCommand text = .error .misshapen := by
  have distinct := commandMembers_distinct command
  rw [commandMembers_eq] at asked distinct
  exact readDocument_flawed (fun _ _ means => command_sound command means)
    (List.nodup_cons.mp distinct).1 (by decide) document asked kind (by simpa using flaw)

/-- How an object is laid out makes no difference to what it decodes to. Any document of an object
that holds the members of an event or command is that event or command, with its stamp as it is
written, and only a disconnect admits no other members. A room that is left out is the same as an
empty one. An object with a member given twice, left out or null is refused. -/
theorem decoding_ignores_layout :
    (∀ (event : Event) (pairs : List (String × Json)) (text : String),
      Document (.object pairs) text → Holds (eventMembers event) pairs →
        readEvent text = .ok event.asWritten ∧
          (readEvent text = .ok event ↔ event.IsRegular)) ∧
    (∀ (command : Command) (pairs : List (String × Json)) (text : String),
      Document (.object pairs) text → Holds (commandMembers command) pairs →
        (command = .disconnect → pairs.length = 1) →
          readCommand text = .ok command.asWritten ∧
            (readCommand text = .ok command ↔ command.IsRegular)) ∧
    (∀ (tag : String) (front back : List (String × Json)) (without empty : String),
      tag ∈ ["connect", "message", "list_users"] → (tagName, .string tag) ∈ front ++ back →
        (∀ pair ∈ front ++ back, pair.1 ≠ "room") → Document (.object (front ++ back)) without →
          Document (.object (front ++ ("room", .string "") :: back)) empty →
            readCommand without = readCommand empty) ∧
    (∀ (event : Event) (name : String) (pairs : List (String × Json)) (text : String),
      Document (.object pairs) text → name ∈ (eventMembers event).map (·.1) →
        (name ≠ tagName → (tagName, .string (eventTag event)) ∈ pairs) →
          Flaw pairs name True → readEvent text = .error .misshapen) ∧
    (∀ (command : Command) (name : String) (pairs : List (String × Json)) (text : String),
      Document (.object pairs) text → name ∈ (commandMembers command).map (·.1) →
        (name ≠ tagName → (tagName, .string (commandTag command)) ∈ pairs) →
          Flaw pairs name (name ≠ "room") → readCommand text = .error .misshapen) := by
  refine ⟨fun event _ _ document holds => ?event, fun command _ _ document holds alone => ?command,
    fun _ _ _ _ _ roomy tagged absent without empty =>
      readCommand_without_room roomy tagged absent without empty,
    fun _ _ _ _ document asked kind flaw => readEvent_flawed document asked kind flaw,
    fun _ _ _ _ document asked kind flaw => readCommand_flawed document asked kind flaw⟩
  case event =>
    have read := readEvent_of_holds document holds
    exact ⟨read, by rw [read, Except.ok.injEq, event.asWritten_eq_iff]⟩
  case command =>
    have read := readCommand_of_holds document holds alone
    exact ⟨read, by rw [read, Except.ok.injEq, command.asWritten_eq_iff]⟩

def scaledNumeral : Numeral where
  negative := true
  whole := ['1']
  fraction := ['5']
  scaled := some ⟨'e', ['+'], ['3'], by decide, by decide, by decide,
    List.all_eq_true.mp rfl⟩
  started := Or.inr ⟨'1', [], rfl, by decide⟩
  digital := List.all_eq_true.mp rfl

theorem scaledNumeral_finite : scaledNumeral.IsFinite :=
  Numeral.isFinite_of_lt (by decide) (by decide +kernel)

def scatteredMembers : List (String × Json) :=
  [("note", .array [.number scaledNumeral.number, .null]), ("user_names", .array [.string "é"]),
    (tagName, .string "users")]

def scatteredText : String :=
  " \x7b\"note\":[-1.5e+3, null],\n\"user_names\" :[\"\\u00E9\"],\"t\\u0079pe\":\"users\" \x7d"

theorem scattered_document : Document (.object scatteredMembers) scatteredText := by
  have blank : Blank [' '] := List.all_eq_true.mp rfl
  have line : Blank ['\n'] := List.all_eq_true.mp rfl
  have accented : SpellsString "é" ['"', '\\', 'u', '0', '0', 'E', '9', '"'] := by
    apply @SpellsString.quoted "é" ['\\', 'u', '0', '0', 'E', '9']
    exact .cons (.unit ['0', '0', 'E', '9'] (.four rfl rfl rfl rfl rfl)) .nil
  have escaped : SpellsString tagName
      ['"', 't', '\\', 'u', '0', '0', '7', '9', 'p', 'e', '"'] := by
    apply @SpellsString.quoted tagName ['t', '\\', 'u', '0', '0', '7', '9', 'p', 'e']
    refine .cons (.plain (by decide) (by decide) (by decide)) ?_
    refine .cons (.unit ['0', '0', '7', '9'] (.four rfl rfl rfl rfl rfl)) ?_
    exact .cons (.plain (by decide) (by decide) (by decide))
      (.cons (.plain (by decide) (by decide) (by decide)) .nil)
  have null : Laid [scaledNumeral.text, ['n', 'u', 'l', 'l']]
      (scaledNumeral.text ++ [',', ' ', 'n', 'u', 'l', 'l']) :=
    @Laid.some _ _ [] _ blank_nil
      (@Later.next _ _ [] [' '] _ blank_nil blank (.done blank_nil))
  have note := @Spells.array 125
    [(scaledNumeral.text, .number scaledNumeral.number), (['n', 'u', 'l', 'l'], .null)] _
    (List.forall_mem_cons.mpr ⟨.number 125 _ scaledNumeral_finite,
      List.forall_mem_cons.mpr ⟨.null 125, List.forall_mem_nil _⟩⟩) null
  have names := @Spells.array 125 [(_, .string "é")] _
    (List.forall_mem_cons.mpr ⟨.string 125 accented, List.forall_mem_nil _⟩) (laid_compact _)
  have tag : Spells 126 (.string "users") (printString "users") :=
    .string 126 (spellsString_printed "users")
  have object := @Spells.object 126
    [⟨"note", printString "note", [], [], _, _⟩,
      ⟨"user_names", printString "user_names", [' '], [], _, _⟩, ⟨tagName, _, [], [], _, _⟩] _
    (List.forall_mem_cons.mpr ⟨⟨spellsString_printed "note", blank_nil, blank_nil⟩,
      List.forall_mem_cons.mpr ⟨⟨spellsString_printed "user_names", blank, blank_nil⟩,
        List.forall_mem_cons.mpr ⟨⟨escaped, blank_nil, blank_nil⟩, List.forall_mem_nil _⟩⟩⟩)
    (List.forall_mem_cons.mpr ⟨note, List.forall_mem_cons.mpr ⟨names,
      List.forall_mem_cons.mpr ⟨tag, List.forall_mem_nil _⟩⟩⟩)
    (@Laid.some _ _ [] _ blank_nil (@Later.next _ _ [] ['\n'] _ blank_nil line
      (@Later.next _ _ [] [] _ blank_nil blank_nil (.done blank))))
  exact @Document.laid _ [' '] _ [] blank object blank_nil

theorem spells_null (depth : Nat) : Spells depth .null (print .null) := by
  rw [print]
  exact .null depth

theorem decoding_ignores_layout_of_scattered :
    readEvent scatteredText = .ok (.users ["é"]) ∧
    readCommand (Json.object [("note", .null), (tagName, .string "list_users"),
      ("room", .string "lobby")]).render = .ok (.listUsers "lobby") ∧
    readCommand (Json.object [(tagName, .string "list_users")]).render =
      readCommand (Json.object [("room", .string ""), (tagName, .string "list_users")]).render ∧
    readEvent (Json.object [(tagName, .string "users")]).render = .error .misshapen ∧
    readCommand (Json.object [(tagName, .string "list_users"), ("room", .null)]).render =
      .error .misshapen := by
  obtain ⟨event, command, room, event_flaw, command_flaw⟩ := decoding_ignores_layout
  have bare (kind : String) :
      Document (.object [(tagName, .string kind)]) (Json.object [(tagName, .string kind)]).render :=
    document_render (List.forall_mem_cons.mpr ⟨spells_text 126 kind, List.forall_mem_nil _⟩)
  refine ⟨(event (.users ["é"]) _ _ scattered_document ?_).1,
    (command (.listUsers "lobby") _ _ (document_render ?_) ?_ nofun).1,
    room "list_users" [] _ _ _ ?_ ?_ ?_ (bare "list_users") (document_render ?_),
    event_flaw (.users []) "user_names" _ _ (bare "users") ?_ ?_ (.missing trivial ?_),
    command_flaw (.listUsers "") "room" _ _ (document_render ?_) ?_ ?_ (.null ?_)⟩
  · simpa [Holds, eventMembers, scatteredMembers, tagName] using .swap _ _ _
  · simp [spells_text, spells_null]
  · simp [Holds, commandMembers, tagName]
  · decide
  · exact List.mem_cons_self
  · simp [tagName]
  · simp [spells_text]
  · simp [eventMembers]
  · exact fun _ => List.mem_cons_self
  · simp [tagName]
  · simp [spells_text, spells_null]
  · simp [commandMembers]
  · exact fun _ => List.mem_cons_self
  · simp

/-- An object that holds the members of an event is another event, if the stamp is in a leap second
in the middle of a minute. -/
theorem stray_leap_second_is_elsewhere :
    readEvent (Json.object (eventMembers (.system "tick" .stray))).render =
        .ok (.system "tick" ⟨1435708565, 333000000, by decide, by decide, by decide⟩) ∧
      ¬∀ (event : Event) (pairs : List (String × Json)) (text : String),
        Document (.object pairs) text → Holds (eventMembers event) pairs →
          readEvent text = .ok event := by
  have document : Document (.object (eventMembers (.system "tick" .stray))) _ :=
    document_render (by simp [eventMembers, spells_text])
  have holds :
      Holds (eventMembers (.system "tick" .stray)) (eventMembers (.system "tick" .stray)) := by
    simp [Holds, eventMembers, tagName]
  have read := readEvent_of_holds document holds
  refine ⟨read, fun same => ?_⟩
  have back := same _ _ _ document holds
  rw [read, Except.ok.injEq, Event.asWritten_eq_iff] at back
  exact absurd (back _ rfl) (by decide)

end ChatRooms.Wire
