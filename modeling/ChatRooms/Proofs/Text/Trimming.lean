import ChatRooms.Text.Blank
import Mathlib.Data.List.Basic
import Mathlib.Data.List.TakeWhile

/-! Trimming takes away the blanks at both ends and nothing else, so that what is left neither
begins nor ends with one, and a text that does not is left as it is. -/
namespace ChatRooms.Text

variable {text : List Char}

structure Trimmed (text : List Char) : Prop where
  start : ∀ c ∈ text.head?, isBlank c = false
  finish : ∀ c ∈ text.getLast?, isBlank c = false

theorem dropWhile_of_start (start : ∀ c ∈ text.head?, isBlank c = false) :
    text.dropWhile isBlank = text := by
  cases text with
  | nil => rfl
  | cons c rest => exact List.dropWhile_cons_of_neg (by simp [start c rfl])

theorem start_dropWhile (text : List Char) :
    ∀ c ∈ (text.dropWhile isBlank).head?, isBlank c = false := by
  intro c first
  have kept := List.head?_dropWhile_not isBlank text
  rw [first] at kept
  exact kept

theorem trimChars_of_trimmed (trimmed : Trimmed text) : trimChars text = text := by
  have start : trimStart text = text := dropWhile_of_start trimmed.start
  have finish : text.reverse.dropWhile isBlank = text.reverse :=
    dropWhile_of_start (by simpa using trimmed.finish)
  rw [trimChars, start, trimEnd, finish, List.reverse_reverse]

theorem trimEnd_append (text : List Char) :
    ∃ blanks, text = trimEnd text ++ blanks ∧ ∀ c ∈ blanks, isBlank c = true := by
  refine ⟨(text.reverse.takeWhile isBlank).reverse, ?_, fun c listed => ?_⟩
  · have parted := List.takeWhile_append_dropWhile (p := isBlank) (l := text.reverse)
    rw [trimEnd, ← List.reverse_append, parted, List.reverse_reverse]
  · exact List.mem_takeWhile_imp (List.mem_reverse.mp listed)

structure Strips (text inner : List Char) : Prop where
  within : ∃ before after, text = before ++ inner ++ after ∧
    ∀ c ∈ before ++ after, isBlank c = true
  trimmed : Trimmed inner

theorem trimChars_within (text : List Char) : ∃ before after,
    text = before ++ trimChars text ++ after ∧ ∀ c ∈ before ++ after, isBlank c = true := by
  obtain ⟨after, rest, blanks⟩ := trimEnd_append (trimStart text)
  refine ⟨text.takeWhile isBlank, after, ?_, fun c listed => ?_⟩
  · rw [trimChars, List.append_assoc, ← rest]
    exact List.takeWhile_append_dropWhile.symm
  · rcases List.mem_append.mp listed with early | late
    · exact List.mem_takeWhile_imp early
    · exact blanks c late

theorem trimChars_trimmed (text : List Char) : Trimmed (trimChars text) where
  start c first := by
    obtain ⟨blanks, parted, -⟩ := trimEnd_append (trimStart text)
    have front : c ∈ (trimStart text).head? := by
      cases kept : trimChars text with
      | nil => simp [kept] at first
      | cons d rest =>
          rw [kept] at first
          have whole : trimStart text = d :: rest ++ blanks := kept ▸ parted
          rw [whole]
          exact first
    exact start_dropWhile text c front
  finish c last := by
    rw [trimChars, trimEnd, List.getLast?_reverse] at last
    exact start_dropWhile _ c last

theorem trimChars_strips (text : List Char) : Strips text (trimChars text) :=
  ⟨trimChars_within text, trimChars_trimmed text⟩

-- Only blanks come off the front until there is something else.
theorem trimStart_append {blanks : List Char} (blank : ∀ c ∈ blanks, isBlank c = true)
    (text : List Char) : trimStart (blanks ++ text) = trimStart text :=
  List.dropWhile_append_of_pos blank

theorem trimEnd_append_blanks {blanks : List Char} (blank : ∀ c ∈ blanks, isBlank c = true)
    (text : List Char) : trimEnd (text ++ blanks) = trimEnd text := by
  have reversed : ∀ c ∈ blanks.reverse, isBlank c = true := fun c listed =>
    blank c (List.mem_reverse.mp listed)
  rw [trimEnd, List.reverse_append, List.dropWhile_append_of_pos reversed, trimEnd]

theorem trimStart_append_of_trimmed {inner : List Char} (trimmed : Trimmed inner)
    (some_inner : inner ≠ []) (after : List Char) :
    trimStart (inner ++ after) = inner ++ after := by
  refine dropWhile_of_start fun c first => trimmed.start c ?_
  rwa [List.head?_append_of_ne_nil _ some_inner] at first

theorem Strips.trimChars {inner : List Char} (strips : Strips text inner) :
    trimChars text = inner := by
  obtain ⟨⟨before, after, rfl, blanks⟩, trimmed⟩ := strips
  have early : ∀ c ∈ before, isBlank c = true := fun c listed =>
    blanks c (List.mem_append_left _ listed)
  have late : ∀ c ∈ after, isBlank c = true := fun c listed =>
    blanks c (List.mem_append_right _ listed)
  rw [Text.trimChars, List.append_assoc, trimStart_append early]
  by_cases none_inner : inner = []
  · subst none_inner
    have gone := trimStart_append late []
    rw [List.append_nil] at gone
    rw [List.nil_append, gone]
    rfl
  · rw [trimStart_append_of_trimmed trimmed none_inner, trimEnd_append_blanks late]
    have kept := trimChars_of_trimmed trimmed
    rwa [Text.trimChars, trimStart, dropWhile_of_start trimmed.start] at kept

/-- There is one text between the blanks, and trimming finds it. -/
theorem strips_iff {inner : List Char} : Strips text inner ↔ trimChars text = inner :=
  ⟨Strips.trimChars, fun same => same ▸ trimChars_strips text⟩

theorem mem_of_mem_trimChars {c : Char} (listed : c ∈ trimChars text) : c ∈ text := by
  obtain ⟨before, after, whole, -⟩ := trimChars_within text
  rw [whole]
  exact List.mem_append_left _ (List.mem_append_right _ listed)

theorem no_blank_of_all (plain : text.all (!isBlank ·) = true) : ∀ c ∈ text, isBlank c = false := by
  simpa using plain

theorem trimmed_of_no_blank (plain : ∀ c ∈ text, isBlank c = false) : Trimmed text :=
  ⟨fun c first => plain c (List.mem_of_mem_head? first),
    fun c last => plain c (List.mem_of_mem_getLast? last)⟩

/-- Two texts that are not empty, whatever lies between them, are trimmed at their ends. -/
theorem Trimmed.enclose {first last : List Char} (one : Trimmed first) (two : Trimmed last)
    (some_first : first ≠ []) (some_last : last ≠ []) (between : List Char) :
    Trimmed (first ++ between ++ last) where
  start c front := by
    rw [List.append_assoc, List.head?_append_of_ne_nil _ some_first] at front
    exact one.start c front
  finish c back := by
    rw [List.getLast?_append_of_ne_nil _ some_last] at back
    exact two.finish c back

end ChatRooms.Text
