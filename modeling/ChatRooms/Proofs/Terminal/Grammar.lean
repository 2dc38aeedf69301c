import ChatRooms.Proofs.Text.Letters
import ChatRooms.Proofs.Text.Trimming
import ChatRooms.Terminal.Console

/-! The grammar of a line as a relation beside the reader: what a text asks for, by its first word
and by the two pieces after it. The reader finds what the grammar says and nothing else, and an
entry that it has found is found again in the line that is printed for it. Spaces are another
matter: two of them in a row have an empty piece between them, and only the last piece begins
after all the spaces that stand before it. -/
namespace ChatRooms.Terminal

open Text (CaseVariant Strips Trimmed isBlank trimChars)

/-- A text by its spaces: its first word, what stands between the first space and the second or
the end, and what stands after the second. -/
inductive Parted : List Char → List Char → Option (List Char) → Option (List Char) → Prop
  | word {word : List Char} : ' ' ∉ word → Parted word word none none
  | one {word first : List Char} : ' ' ∉ word → ' ' ∉ first →
      Parted (word ++ ' ' :: first) word (some first) none
  | two {word first second : List Char} : ' ' ∉ word → ' ' ∉ first →
      Parted (word ++ ' ' :: (first ++ ' ' :: second)) word (some first) (some second)

structure Slashed (text word : List Char) (first second : Option (List Char)) : Prop where
  slash : text.head? = some '/'
  parted : Parted text word first second

def Argument (piece : Option (List Char)) (argument : List Char) : Prop :=
  argument ≠ [] ∧ ∃ text ∈ piece, Strips text argument

def commandWords : List String := ["/help", "/users", "/quit", "/join", "/dm"]

inductive Asks : List Char → Except EntryError Entry → Prop
  | blank : Asks [] (.ok .blank)
  | say {text : List Char} : text ≠ [] → text.head? ≠ some '/' →
      Asks text (.ok (.say (String.ofList text)))
  | help {text word : List Char} {first second : Option (List Char)} :
      Slashed text word first second → CaseVariant word "/help".toList → Asks text (.ok .help)
  | users {text word : List Char} {first second : Option (List Char)} :
      Slashed text word first second → CaseVariant word "/users".toList → Asks text (.ok .users)
  | quit {text word : List Char} {first second : Option (List Char)} :
      Slashed text word first second → CaseVariant word "/quit".toList → Asks text (.ok .quit)
  | join {text word room : List Char} {first second : Option (List Char)} :
      Slashed text word first second → CaseVariant word "/join".toList → Argument first room →
      Asks text (.ok (.join (String.ofList room)))
  | joinUsage {text word : List Char} {first second : Option (List Char)} :
      Slashed text word first second → CaseVariant word "/join".toList →
      (¬ ∃ room, Argument first room) → Asks text (.error .joinUsage)
  | direct {text word recipient content : List Char} {first second : Option (List Char)} :
      Slashed text word first second → CaseVariant word "/dm".toList →
      Argument first recipient → Argument second content →
      Asks text (.ok (.direct (String.ofList recipient) (String.ofList content)))
  | directUsage {text word : List Char} {first second : Option (List Char)} :
      Slashed text word first second → CaseVariant word "/dm".toList →
      (¬ ∃ recipient content, Argument first recipient ∧ Argument second content) →
      Asks text (.error .directUsage)
  | unknown {text word : List Char} {first second : Option (List Char)} :
      Slashed text word first second →
      (∀ known ∈ commandWords, ¬ CaseVariant word known.toList) →
      Asks text (.error (.unknown (Text.lowercase (String.ofList word))))

section Spaces
variable {word rest : List Char}

theorem splitSpace_word (solid : ' ' ∉ word) : splitSpace word = (word, []) := by
  have kept : ∀ c ∈ word, decide (c ≠ ' ') = true := fun c listed =>
    decide_eq_true fun space => solid (space ▸ listed)
  rw [splitSpace, List.takeWhile_eq_self_iff.mpr kept, List.dropWhile_eq_nil_iff.mpr kept]
  rfl

theorem splitSpace_append (solid : ' ' ∉ word) (rest : List Char) :
    splitSpace (word ++ ' ' :: rest) = (word, rest) := by
  have kept : ∀ c ∈ word, decide (c ≠ ' ') = true := fun c listed =>
    decide_eq_true fun space => solid (space ▸ listed)
  rw [splitSpace, List.takeWhile_append_of_pos kept, List.dropWhile_append_of_pos kept]
  simp

theorem exists_parted (text : List Char) : ∃ word first second, Parted text word first second := by
  by_cases spaced : ' ' ∈ text
  · obtain ⟨word, rest, rfl, solid⟩ := List.eq_append_cons_of_mem spaced
    by_cases again : ' ' ∈ rest
    · obtain ⟨first, second, rfl, solid_first⟩ := List.eq_append_cons_of_mem again
      exact ⟨_, _, _, .two solid solid_first⟩
    · exact ⟨_, _, _, .one solid again⟩
  · exact ⟨_, _, _, .word spaced⟩

end Spaces

variable {text word : List Char} {first second : Option (List Char)}

theorem argument_iff {piece : Option (List Char)} {argument : List Char} :
    Argument piece argument ↔ argument ≠ [] ∧ trimChars (piece.getD []) = argument := by
  cases piece with
  | some text => simp [Argument, Text.strips_iff]
  | none =>
      have nothing : trimChars [] = [] := rfl
      simp only [Argument, Option.getD_none, nothing, Option.mem_def, reduceCtorEq, false_and,
        exists_false, and_false, false_iff]
      exact fun both => both.1 both.2.symm

theorem exists_argument_iff {piece : Option (List Char)} :
    (∃ argument, Argument piece argument) ↔ (trimChars (piece.getD [])).isEmpty = false := by
  simp only [argument_iff, List.isEmpty_eq_false_iff]
  exact ⟨fun ⟨_, some_text, same⟩ => same ▸ some_text, fun some_text => ⟨_, some_text, rfl⟩⟩

/-- A piece that is not there reads as an empty one. -/
theorem ofSlashed_of_parted (parted : Parted text word first second) :
    Entry.ofSlashed text = Entry.ofWord (Text.lowercase (String.ofList word))
      (trimChars (first.getD [])) (trimChars (second.getD [])) := by
  cases parted with
  | word solid =>
      have empty : splitSpace [] = ([], []) := rfl
      rw [Entry.ofSlashed, splitSpace_word solid]
      simp only [empty, Option.getD_none]
  | one solid solid_first =>
      rw [Entry.ofSlashed, splitSpace_append solid]
      simp only [splitSpace_word solid_first, Option.getD_some, Option.getD_none]
  | two solid solid_first =>
      rw [Entry.ofSlashed, splitSpace_append solid]
      simp only [splitSpace_append solid_first, Option.getD_some]

theorem ofTrimmed_of_slashed (slashed : Slashed text word first second) :
    Entry.ofTrimmed text = Entry.ofWord (Text.lowercase (String.ofList word))
      (trimChars (first.getD [])) (trimChars (second.getD [])) := by
  obtain ⟨rest, rfl⟩ := List.head?_eq_some_iff.mp slashed.slash
  exact ofSlashed_of_parted slashed.parted

theorem ofTrimmed_of_unslashed (some_text : text ≠ []) (plain : text.head? ≠ some '/') :
    Entry.ofTrimmed text = .ok (.say (String.ofList text)) := by
  cases text with
  | nil => exact absurd rfl some_text
  | cons c rest =>
      have other : c ≠ '/' := fun same => plain (congrArg some same)
      rw [Entry.ofTrimmed, if_neg other]

theorem commandWord_plain {known : String} (listed : known ∈ commandWords) :
    ∀ d ∈ known.toList, d ∈ Text.plainLetters := by
  have plain : known.toList.all (· ∈ Text.plainLetters) = true := by
    revert known
    decide
  exact List.all_iff_forall_prop.mp plain

theorem lowercase_eq_commandWord_iff {known : String} (listed : known ∈ commandWords) :
    Text.lowercase (String.ofList word) = known ↔ CaseVariant word known.toList := by
  rw [← Text.lowercase_eq_iff (commandWord_plain listed), String.ofList_toList]

/-- The reader finds something that the grammar says. -/
theorem asks_ofTrimmed (text : List Char) : Asks text (Entry.ofTrimmed text) := by
  by_cases none_text : text = []
  · subst none_text
    exact .blank
  by_cases slash : text.head? = some '/'
  · obtain ⟨word, first, second, parted⟩ := exists_parted text
    have slashed : Slashed text word first second := ⟨slash, parted⟩
    have variant {known : String} (listed : known ∈ commandWords)
        (lowered : Text.lowercase (String.ofList word) = known) : CaseVariant word known.toList :=
      (lowercase_eq_commandWord_iff listed).mp lowered
    rw [ofTrimmed_of_slashed slashed, Entry.ofWord]
    split_ifs with help users quit join bare direct lacking
    · exact .help slashed (variant (by decide) help)
    · exact .users slashed (variant (by decide) users)
    · exact .quit slashed (variant (by decide) quit)
    · refine .joinUsage slashed (variant (by decide) join) fun found => ?_
      exact Bool.false_ne_true ((exists_argument_iff.mp found).symm.trans bare)
    · refine .join slashed (variant (by decide) join) (argument_iff.mpr ⟨?_, rfl⟩)
      exact fun none_room => bare (List.isEmpty_iff.mpr none_room)
    · refine .directUsage slashed (variant (by decide) direct) ?_
      rintro ⟨recipient, content, to_, body⟩
      have some_recipient := exists_argument_iff.mp ⟨recipient, to_⟩
      have some_content := exists_argument_iff.mp ⟨content, body⟩
      rw [some_recipient, some_content] at lacking
      contradiction
    · rw [Bool.or_eq_true, not_or] at lacking
      exact .direct slashed (variant (by decide) direct)
        (argument_iff.mpr ⟨fun none_text => lacking.1 (List.isEmpty_iff.mpr none_text), rfl⟩)
        (argument_iff.mpr ⟨fun none_text => lacking.2 (List.isEmpty_iff.mpr none_text), rfl⟩)
    · refine .unknown slashed fun known listed same => ?_
      have lowered := (lowercase_eq_commandWord_iff listed).mpr same
      simp only [commandWords, List.mem_cons, List.not_mem_nil, or_false] at listed
      rcases listed with rfl | rfl | rfl | rfl | rfl
      · exact help lowered
      · exact users lowered
      · exact quit lowered
      · exact join lowered
      · exact direct lowered
  · rw [ofTrimmed_of_unslashed none_text slash]
    exact .say none_text slash

/-- And the grammar says nothing else of the text. -/
theorem ofTrimmed_of_asks {result : Except EntryError Entry} (asks : Asks text result) :
    Entry.ofTrimmed text = result := by
  have lowered {word : List Char} {known : String} (variant : CaseVariant word known.toList)
      (listed : known ∈ commandWords) : Text.lowercase (String.ofList word) = known :=
    (lowercase_eq_commandWord_iff listed).mpr variant
  cases asks with
  | blank => rfl
  | say some_text plain => exact ofTrimmed_of_unslashed some_text plain
  | help slashed variant =>
      rw [ofTrimmed_of_slashed slashed, lowered variant (by decide)]
      rfl
  | users slashed variant =>
      rw [ofTrimmed_of_slashed slashed, lowered variant (by decide)]
      rfl
  | quit slashed variant =>
      rw [ofTrimmed_of_slashed slashed, lowered variant (by decide)]
      rfl
  | join slashed variant room =>
      obtain ⟨some_room, trimmed⟩ := argument_iff.mp room
      rw [ofTrimmed_of_slashed slashed, lowered variant (by decide), trimmed]
      simp [Entry.ofWord, some_room]
  | joinUsage slashed variant lacking =>
      rw [exists_argument_iff, Bool.not_eq_false] at lacking
      rw [ofTrimmed_of_slashed slashed, lowered variant (by decide)]
      simp [Entry.ofWord, lacking]
  | direct slashed variant to_ body =>
      obtain ⟨some_recipient, trimmed_recipient⟩ := argument_iff.mp to_
      obtain ⟨some_content, trimmed_content⟩ := argument_iff.mp body
      rw [ofTrimmed_of_slashed slashed, lowered variant (by decide), trimmed_recipient,
        trimmed_content]
      simp [Entry.ofWord, some_recipient, some_content]
  | directUsage slashed variant lacking =>
      rw [← exists_and_exists_comm, exists_argument_iff, exists_argument_iff, not_and_or,
        Bool.not_eq_false, Bool.not_eq_false, ← Bool.or_eq_true] at lacking
      rw [ofTrimmed_of_slashed slashed, lowered variant (by decide)]
      exact if_pos lacking
  | unknown slashed other =>
      have differs {known : String} (listed : known ∈ commandWords) :=
        (lowercase_eq_commandWord_iff listed).not.mpr (other known listed)
      rw [ofTrimmed_of_slashed slashed, Entry.ofWord, if_neg (differs (by decide)),
        if_neg (differs (by decide)), if_neg (differs (by decide)), if_neg (differs (by decide)),
        if_neg (differs (by decide))]

theorem ofTrimmed_eq_iff {result : Except EntryError Entry} :
    Entry.ofTrimmed text = result ↔ Asks text result :=
  ⟨fun same => same ▸ asks_ofTrimmed text, ofTrimmed_of_asks⟩

theorem parse_eq_iff {line : String} {result : Except EntryError Entry}
    (strips : Strips line.toList text) : Entry.parse line = result ↔ Asks text result := by
  rw [Entry.parse, strips.trimChars, ofTrimmed_eq_iff]

-- A line is posted whole or not at all.
theorem asks_of_posted {session : Session} {mode : Mode} {now : Timestamp}
    {line user content room : String} (strips : Strips line.toList text)
    (posted : .move (.send (.post user content room)) ∈ lineTasks session mode now line) :
    Asks text (.ok (.say content)) := by
  rw [lineTasks] at posted
  rw [← parse_eq_iff strips]
  cases parsed : Entry.parse line with
  | error reason =>
      rw [parsed] at posted
      cases mode <;> simp [writeLine, promptTasks] at posted
  | ok entry =>
      rw [parsed] at posted
      cases entry <;> cases mode <;>
        simp [leaveTasks, entryTasks, wishTasks, writeLine, promptTasks, Session.moves] at posted
      all_goals rw [posted.2.1]

section Printing

structure Solid (text : String) : Prop where
  some_text : text ≠ ""
  trimmed : Trimmed text.toList
  solid : ' ' ∉ text.toList

theorem solid_of_plain {text : String} (some_text : text ≠ "")
    (plain : ∀ c ∈ text.toList, isBlank c = false) : Solid text where
  some_text := some_text
  trimmed := Text.trimmed_of_no_blank plain
  solid space := Bool.false_ne_true ((plain ' ' space).symm.trans rfl)

def Entry.Proper : Entry → Prop
  | .blank | .help | .users | .quit => True
  | .say content =>
      content ≠ "" ∧ Trimmed content.toList ∧ content.toList.head? ≠ some '/'
  | .join room => Solid room
  | .direct recipient content =>
      Solid recipient ∧ content ≠ "" ∧ Trimmed content.toList

def Entry.line : Entry → String
  | .blank => ""
  | .say content => content
  | .help => "/help"
  | .users => "/users"
  | .quit => "/quit"
  | .join room => "/join " ++ room
  | .direct recipient content => "/dm " ++ recipient ++ " " ++ content

theorem ofList_ne_empty (some_text : text ≠ []) : String.ofList text ≠ "" := fun empty =>
  some_text (String.ofList_injective empty)

theorem Argument.trimmed {piece : Option (List Char)} {argument : List Char}
    (found : Argument piece argument) : Trimmed argument :=
  have ⟨_, _, _, strips⟩ := found
  strips.trimmed

theorem Parted.first_solid (parted : Parted text word first second) : ∀ piece ∈ first, ' ' ∉ piece
  | piece, listed => by
    cases parted with
    | word solid => cases listed
    | one solid solid_first | two solid solid_first =>
        cases listed
        exact solid_first

theorem solid_of_argument {argument : List Char} (parted : Parted text word first second)
    (found : Argument first argument) : Solid (String.ofList argument) := by
  obtain ⟨some_text, piece, listed, strips⟩ := found
  refine ⟨ofList_ne_empty some_text, ?_, ?_⟩
  · rw [String.toList_ofList]
    exact strips.trimmed
  · rw [String.toList_ofList, ← strips.trimChars]
    exact fun space => parted.first_solid piece listed (Text.mem_of_mem_trimChars space)

theorem proper_of_asks {entry : Entry} (asks : Asks text (.ok entry)) (trimmed : Trimmed text) :
    entry.Proper := by
  cases asks with
  | blank | help | users | quit => trivial
  | say some_text plain =>
      refine ⟨ofList_ne_empty some_text, ?_, ?_⟩ <;> rwa [String.toList_ofList]
  | join slashed _ room => exact solid_of_argument slashed.parted room
  | direct slashed _ to_ body =>
      refine ⟨solid_of_argument slashed.parted to_, ofList_ne_empty body.1, ?_⟩
      rw [String.toList_ofList]
      exact body.trimmed

variable {text : String}

theorem toList_ne_nil (some_text : text ≠ "") : text.toList ≠ [] := fun empty =>
  some_text (String.toList_eq_nil_iff.mp empty)

theorem argument_of_trimmed (some_text : text ≠ "") (trimmed : Trimmed text.toList) :
    Argument (some text.toList) text.toList :=
  ⟨toList_ne_nil some_text, _, rfl, ⟨[], [], by simp, by simp⟩, trimmed⟩

theorem trimmed_word {known : String} (listed : known ∈ commandWords) : Trimmed known.toList := by
  have plain : known.toList.all (!isBlank ·) = true := by
    revert known
    decide
  exact Text.trimmed_of_no_blank (Text.no_blank_of_all plain)

theorem commandWord_shape {known : String} (listed : known ∈ commandWords) :
    known.toList.head? = some '/' ∧ ' ' ∉ known.toList := by
  revert known
  decide

-- A line that ends as its last argument does has no blanks around it and is its own text.
theorem parse_enclosed {known last line : String} {between : List Char}
    {result : Except EntryError Entry} (listed : known ∈ commandWords) (some_last : last ≠ "")
    (trimmed : Trimmed last.toList)
    (shape : line.toList = known.toList ++ between ++ last.toList)
    (asks : Asks line.toList result) : Entry.parse line = result := by
  have some_known : known.toList ≠ [] := fun empty => by
    have slash := (commandWord_shape listed).1
    rw [empty] at slash
    cases slash
  have whole : Trimmed line.toList :=
    shape ▸ (trimmed_word listed).enclose trimmed some_known (toList_ne_nil some_last) between
  exact (parse_eq_iff ⟨⟨[], [], by simp, by simp⟩, whole⟩).mpr asks

theorem parse_command {known : String} {result : Except EntryError Entry}
    (listed : known ∈ commandWords) (asks : Asks known.toList result) :
    Entry.parse known = result :=
  (parse_eq_iff ⟨⟨[], [], by simp, by simp⟩, trimmed_word listed⟩).mpr asks

theorem slashed_word {known : String} (listed : known ∈ commandWords) :
    Slashed known.toList known.toList none none :=
  ⟨(commandWord_shape listed).1, .word (commandWord_shape listed).2⟩

theorem slashed_one {known : String} {first : List Char} (listed : known ∈ commandWords)
    (solid : ' ' ∉ first) :
    Slashed (known.toList ++ ' ' :: first) known.toList (some first) none := by
  obtain ⟨slash, solid_word⟩ := commandWord_shape listed
  refine ⟨?_, .one solid_word solid⟩
  rw [List.head?_append, slash]
  rfl

theorem slashed_two {known : String} {first : List Char} (listed : known ∈ commandWords)
    (solid : ' ' ∉ first) (second : List Char) :
    Slashed (known.toList ++ ' ' :: (first ++ ' ' :: second)) known.toList (some first)
      (some second) := by
  obtain ⟨slash, solid_word⟩ := commandWord_shape listed
  refine ⟨?_, .two solid_word solid⟩
  rw [List.head?_append, slash]
  rfl

def spaces (count : Nat) : String :=
  String.ofList (List.replicate count ' ')

theorem spaces_blank (count : Nat) : ∀ c ∈ List.replicate count ' ', isBlank c = true := by
  intro c listed
  rw [List.eq_of_mem_replicate listed]
  rfl

-- What follows a space begins after all the spaces.
theorem argument_after_spaces (count : Nat) (some_text : text ≠ "")
    (trimmed : Trimmed text.toList) :
    Argument (some (List.replicate count ' ' ++ text.toList)) text.toList := by
  refine ⟨toList_ne_nil some_text, _, rfl, ⟨List.replicate count ' ', [], by simp, ?_⟩, trimmed⟩
  rw [List.append_nil]
  exact spaces_blank count

theorem no_argument_empty : ¬ ∃ argument, Argument (some []) argument := by
  rw [exists_argument_iff]
  decide

variable {room recipient content : String}

theorem parse_join (room_solid : Solid room) :
    Entry.parse ("/join" ++ spaces 1 ++ room) = .ok (.join room) := by
  have listed : "/join" ∈ commandWords := by decide
  have shape : ("/join" ++ spaces 1 ++ room).toList = "/join".toList ++ ' ' :: room.toList := by
    simp [spaces]
  have asks := Asks.join (slashed_one listed room_solid.solid) (by decide)
    (argument_of_trimmed room_solid.some_text room_solid.trimmed)
  rw [String.ofList_toList, ← shape] at asks
  exact parse_enclosed listed room_solid.some_text room_solid.trimmed
    (shape.trans (List.append_cons _ _ _)) asks

/-- With a space too many the room stands after the second space, where nothing looks for it. -/
theorem parse_join_wide (count : Nat) (room_solid : Solid room) :
    Entry.parse ("/join" ++ spaces (count + 2) ++ room) = .error .joinUsage := by
  have listed : "/join" ∈ commandWords := by decide
  have shape : ("/join" ++ spaces (count + 2) ++ room).toList =
      "/join".toList ++ ' ' :: ([] ++ ' ' :: (List.replicate count ' ' ++ room.toList)) := by
    simp [spaces, List.replicate_succ]
  have asks := Asks.joinUsage (slashed_two listed List.not_mem_nil
    (List.replicate count ' ' ++ room.toList)) (by decide) no_argument_empty
  rw [← shape] at asks
  have enclosed : ("/join" ++ spaces (count + 2) ++ room).toList =
      "/join".toList ++ List.replicate (count + 2) ' ' ++ room.toList := by simp [spaces]
  exact parse_enclosed listed room_solid.some_text room_solid.trimmed enclosed asks

theorem parse_direct (count : Nat) (recipient_solid : Solid recipient) (some_content : content ≠ "")
    (trimmed : Trimmed content.toList) :
    Entry.parse ("/dm" ++ spaces 1 ++ recipient ++ spaces (count + 1) ++ content) =
      .ok (.direct recipient content) := by
  have listed : "/dm" ∈ commandWords := by decide
  have shape : ("/dm" ++ spaces 1 ++ recipient ++ spaces (count + 1) ++ content).toList =
      "/dm".toList ++ ' ' ::
        (recipient.toList ++ ' ' :: (List.replicate count ' ' ++ content.toList)) := by
    simp [spaces, List.replicate_succ]
  have asks := Asks.direct (slashed_two listed recipient_solid.solid _) (by decide)
    (argument_of_trimmed recipient_solid.some_text recipient_solid.trimmed)
    (argument_after_spaces count some_content trimmed)
  rw [String.ofList_toList, String.ofList_toList, ← shape] at asks
  have enclosed : ("/dm" ++ spaces 1 ++ recipient ++ spaces (count + 1) ++ content).toList =
      "/dm".toList ++ (' ' :: recipient.toList ++ List.replicate (count + 1) ' ') ++
        content.toList := by simp [spaces]
  exact parse_enclosed listed some_content trimmed enclosed asks

theorem parse_direct_wide (count gap : Nat) (some_content : content ≠ "")
    (trimmed : Trimmed content.toList) :
    Entry.parse ("/dm" ++ spaces (count + 2) ++ recipient ++ spaces gap ++ content) =
      .error .directUsage := by
  have listed : "/dm" ∈ commandWords := by decide
  have shape : ("/dm" ++ spaces (count + 2) ++ recipient ++ spaces gap ++ content).toList =
      "/dm".toList ++ ' ' :: ([] ++ ' ' :: (List.replicate count ' ' ++ recipient.toList ++
        List.replicate gap ' ' ++ content.toList)) := by
    simp [spaces, List.replicate_succ]
  have lacking : ¬ ∃ first second, Argument (some []) first ∧
      Argument (some (List.replicate count ' ' ++ recipient.toList ++ List.replicate gap ' ' ++
        content.toList)) second :=
    fun ⟨first, _, found, _⟩ => no_argument_empty ⟨first, found⟩
  have asks := Asks.directUsage (slashed_two listed List.not_mem_nil _) (by decide) lacking
  rw [← shape] at asks
  have enclosed : ("/dm" ++ spaces (count + 2) ++ recipient ++ spaces gap ++ content).toList =
      "/dm".toList ++ (List.replicate (count + 2) ' ' ++ recipient.toList ++
        List.replicate gap ' ') ++ content.toList := by simp [spaces]
  exact parse_enclosed listed some_content trimmed enclosed asks

/-- An entry that can be read off a line is read off its own. -/
theorem parse_line {entry : Entry} (proper : entry.Proper) :
    Entry.parse entry.line = .ok entry := by
  cases entry with
  | blank => rfl
  | help =>
      exact parse_command (by decide) (.help (slashed_word (by decide)) (by decide))
  | users =>
      exact parse_command (by decide) (.users (slashed_word (by decide)) (by decide))
  | quit =>
      exact parse_command (by decide) (.quit (slashed_word (by decide)) (by decide))
  | say content =>
      obtain ⟨some_text, trimmed, plain⟩ := proper
      have asks := Asks.say (toList_ne_nil some_text) plain
      rw [String.ofList_toList] at asks
      exact (parse_eq_iff ⟨⟨[], [], by simp [Entry.line], by simp⟩, trimmed⟩).mpr asks
  | join room => exact parse_join proper
  | direct recipient content =>
      obtain ⟨solid, some_content, trimmed⟩ := proper
      exact parse_direct 0 solid some_content trimmed

end Printing

/-- What is read off a line is what the grammar says of its text, for every line. A line is posted
when its text neither is empty nor begins with a slash, and an entry that has been read is read
again off the line that is printed for it. -/
theorem parse_follows_grammar (line : String) : ∃ text, Strips line.toList text ∧
    (∀ result, Entry.parse line = result ↔ Asks text result) ∧
    (∀ word, ∀ known ∈ commandWords,
      Text.lowercase word = known ↔ CaseVariant word.toList known.toList) ∧
    (∀ session mode now user content room,
      .move (.send (.post user content room)) ∈ lineTasks session mode now line →
        text ≠ [] ∧ text.head? ≠ some '/' ∧ content = String.ofList text) ∧
    ∀ entry, Entry.parse line = .ok entry →
      entry.Proper ∧ Entry.parse entry.line = .ok entry := by
  obtain ⟨text, strips⟩ : ∃ text, Strips line.toList text := ⟨_, Text.trimChars_strips _⟩
  refine ⟨text, strips, fun result => parse_eq_iff strips, fun word known listed => ?_,
    fun session mode now user content room posted => ?_, fun entry parsed => ?_⟩
  · rw [← lowercase_eq_commandWord_iff listed, String.ofList_toList]
  · cases asks_of_posted strips posted with
    | say some_text plain => exact ⟨some_text, plain, rfl⟩
  · have proper := proper_of_asks ((parse_eq_iff strips).mp parsed) strips.trimmed
    exact ⟨proper, parse_line proper⟩

theorem parse_follows_grammar_of_direct : ∃ text,
    Strips " /Dm bob  see you there ".toList text ∧
    Asks text (.ok (.direct "bob" "see you there")) ∧
    Entry.parse "/dm bob see you there" = .ok (.direct "bob" "see you there") := by
  have parsed : Entry.parse " /Dm bob  see you there " = .ok (.direct "bob" "see you there") := by
    decide +kernel
  obtain ⟨text, strips, reading, -, -, again⟩ := parse_follows_grammar " /Dm bob  see you there "
  exact ⟨text, strips, (reading _).mp parsed, (again _ parsed).2⟩

/-- Spaces before the message make no difference. Two or more after the command word do: the first
argument is taken to be the empty piece between them. -/
theorem parse_spaced {user room content : String} {before between : Nat}
    (some_user : user ≠ "") (plain_user : ∀ c ∈ user.toList, isBlank c = false)
    (some_room : room ≠ "") (plain_room : ∀ c ∈ room.toList, isBlank c = false)
    (some_content : content ≠ "") (trimmed : Trimmed content.toList)
    (gap_before : 1 ≤ before) (gap_between : 1 ≤ between) :
    Entry.parse ("/dm" ++ spaces before ++ user ++ spaces between ++ content) =
        (if before = 1 then .ok (.direct user content) else .error .directUsage) ∧
      Entry.parse ("/join" ++ spaces before ++ room) =
        (if before = 1 then .ok (.join room) else .error .joinUsage) := by
  have user_solid := solid_of_plain some_user plain_user
  have room_solid := solid_of_plain some_room plain_room
  obtain ⟨count, rfl⟩ := Nat.exists_eq_add_of_le' gap_between
  by_cases single : before = 1
  · subst single
    exact ⟨parse_direct count user_solid some_content trimmed, parse_join room_solid⟩
  · obtain ⟨wide, rfl⟩ : ∃ wide, before = wide + 2 := ⟨before - 2, by omega⟩
    rw [if_neg single, if_neg single]
    exact ⟨parse_direct_wide wide _ some_content trimmed, parse_join_wide wide room_solid⟩

theorem parse_spaced_of_bob :
    Entry.parse ("/dm" ++ spaces 1 ++ "bob" ++ spaces 3 ++ "hi") = .ok (.direct "bob" "hi") ∧
      Entry.parse ("/join" ++ spaces 2 ++ "rust") = .error .joinUsage := by
  have user : ∀ c ∈ "bob".toList, isBlank c = false := Text.no_blank_of_all (by decide)
  have room : ∀ c ∈ "rust".toList, isBlank c = false := Text.no_blank_of_all (by decide)
  have content : Trimmed "hi".toList :=
    Text.trimmed_of_no_blank (Text.no_blank_of_all (by decide))
  exact ⟨(@parse_spaced "bob" "rust" "hi" 1 3 (by decide) user (by decide) room (by decide)
      content (by decide) (by decide)).1,
    (@parse_spaced "bob" "rust" "hi" 2 3 (by decide) user (by decide) room (by decide)
      content (by decide) (by decide)).2⟩

/-- The gap before the first argument makes a difference. -/
theorem parse_spaced_differs :
    Entry.parse "/dm bob hi" = .ok (.direct "bob" "hi") ∧
      Entry.parse "/dm  bob hi" = .error .directUsage ∧
      Entry.parse "/join rust" = .ok (.join "rust") ∧
      Entry.parse "/join  rust" = .error .joinUsage := by
  decide +kernel

end ChatRooms.Terminal
