import ChatRooms.Proofs.Json.Numeral
import ChatRooms.Proofs.Json.ReadBack

/-! How a JSON value can be spelled, and that it is read from every spelling: blanks between any two
tokens, each character of a string as it is or escaped in any of the ways there are, numbers in any
form, and arrays and objects inside each other as deep as reading goes. -/
namespace ChatRooms.Json

open Text (isDigit)

variable {α σ : Type} {rest before after printed : List Char}

/-! ## Blanks -/

def Blank (text : List Char) : Prop :=
  ∀ c ∈ text, isSpace c = true

theorem skipSpace_blank (blank : Blank before) (rest : List Char) :
    skipSpace (before ++ rest) = skipSpace rest :=
  List.dropWhile_append_of_pos blank

theorem nextEntry_blank (blank : Blank before) (close : Char) (first : Bool) (rest : List Char) :
    nextEntry close first (before ++ rest) = nextEntry close first rest := by
  unfold nextEntry
  rw [skipSpace_blank blank]

theorem nextEntry_comma (blank : Blank after) {close : Char}
    (closes : close = ']' ∨ close = '\x7d') (rest : List Char) :
    nextEntry close false (',' :: (after ++ rest)) = nextEntry close false (',' :: rest) := by
  have comma : isSpace ',' = false := by decide
  have goes_on : ',' ≠ close := by
    rcases closes with rfl | rfl <;> decide
  simp only [nextEntry, skipSpace_cons comma, skipSpace_blank blank, goes_on, ↓reduceIte,
    Bool.false_eq_true]

theorem colon_blank (blank : Blank before) (rest : List Char) :
    colon (before ++ ':' :: rest) = .ok rest := by
  unfold colon
  rw [skipSpace_blank blank, ← colon, colon_cons]

theorem scalar_blank (blank : Blank before) (rest : List Char) :
    scalar (before ++ rest) = scalar rest := by
  unfold scalar
  rw [skipSpace_blank blank]

theorem value_blank (blank : Blank before) (depth : Nat) (rest : List Char) :
    value depth (before ++ rest) = value depth rest := by
  cases depth with
  | zero => exact scalar_blank blank rest
  | succ depth =>
      unfold value
      rw [skipSpace_blank blank]

/-! ## Strings -/

inductive HexDigits (unit : Nat) : List Char → Prop where
  | four {a b c d : Char} {w x y z : Nat} (first : hexValue? a = some w)
      (second : hexValue? b = some x) (third : hexValue? c = some y)
      (fourth : hexValue? d = some z) (names : unit = ((w * 16 + x) * 16 + y) * 16 + z) :
      HexDigits unit [a, b, c, d]

/-- The ways to write a character of a string: as it is, if it is none of those that have to be
escaped; with the letter of its short escape; by its number; or by the numbers of its surrogates. -/
inductive SpellsChar (c : Char) : List Char → Prop where
  | plain (quote : c ≠ '"') (backslash : c ≠ '\\') (visible : 0x20 ≤ c.toNat) : SpellsChar c [c]
  | short (letter : Char) (escapes : shortEscape? letter = some c) : SpellsChar c ['\\', letter]
  | unit (digits : List Char) (names : HexDigits c.toNat digits) :
      SpellsChar c ('\\' :: 'u' :: digits)
  | pair (first second : List Char) (beyond : 0x10000 ≤ c.toNat)
      (high : HexDigits (0xD800 + (c.toNat - 0x10000) / 0x400) first)
      (low : HexDigits (0xDC00 + (c.toNat - 0x10000) % 0x400) second) :
      SpellsChar c ('\\' :: 'u' :: (first ++ '\\' :: 'u' :: second))

inductive SpellsChars : List Char → List Char → Prop where
  | nil : SpellsChars [] []
  | cons {c : Char} {spelled later printed : List Char} (first : SpellsChar c spelled)
      (rest : SpellsChars later printed) : SpellsChars (c :: later) (spelled ++ printed)

inductive SpellsString (text : String) : List Char → Prop where
  | quoted {printed : List Char} (inner : SpellsChars text.toList printed) :
      SpellsString text ('"' :: (printed ++ ['"']))

-- The digits of an escape lead where the unit leads that they name.
theorem stringFrom_unit {unit : Nat} {digits : List Char} (names : HexDigits unit digits)
    (high : Option Nat) (rest : List Char) :
    stringFrom (.hex 0 0 high) (digits ++ rest) =
      match finishUnit unit high with
      | .error fault => .error fault
      | .ok (found, next) => (stringFrom next rest).map (pushChar found) := by
  obtain @⟨a, b, c, d, w, x, y, z, first, second, third, fourth, rfl⟩ := names
  simp only [List.cons_append, List.nil_append]
  rw [stringFrom_hex 0 _ _ _ (by decide) first, stringFrom_hex 1 _ _ _ (by decide) second,
    stringFrom_hex 2 _ _ _ (by decide) third, stringFrom]
  cases finished : finishUnit (((w * 16 + x) * 16 + y) * 16 + z) high <;>
    simp only [fourth, Nat.lt_irrefl, ↓reduceIte, Nat.zero_mul, Nat.zero_add, finished]

theorem stringFrom_escape (rest : List Char) :
    stringFrom .plain ('\\' :: 'u' :: rest) = stringFrom (.hex 0 0 none) rest := by
  simp [stringFrom]

theorem stringFrom_low (high : Nat) (rest : List Char) :
    stringFrom (.wantBackslash high) ('\\' :: 'u' :: rest) =
      stringFrom (.hex 0 0 (some high)) rest := by
  simp [stringFrom]

theorem joinSurrogates_add (high low : Nat) :
    joinSurrogates (0xD800 + high) (0xDC00 + low) =
      Char.ofNat (0x10000 + high * 0x400 + low) := by
  rw [joinSurrogates, Nat.add_sub_cancel_left, Nat.add_sub_cancel_left]

theorem joinSurrogates_of_beyond {c : Char} (beyond : 0x10000 ≤ c.toNat) :
    joinSurrogates (0xD800 + (c.toNat - 0x10000) / 0x400)
      (0xDC00 + (c.toNat - 0x10000) % 0x400) = c := by
  have whole : 0x10000 + (c.toNat - 0x10000) / 0x400 * 0x400 +
      (c.toNat - 0x10000) % 0x400 = c.toNat := by
    omega
  rw [joinSurrogates_add, whole, Char.ofNat_toNat]

theorem stringFrom_pair {high low : Nat} {first second : List Char}
    (leads : isLowSurrogate high = false ∧ isHighSurrogate high = true)
    (ends : isLowSurrogate low = true) (names_high : HexDigits high first)
    (names_low : HexDigits low second) (rest : List Char) :
    stringFrom .plain ('\\' :: 'u' :: (first ++ '\\' :: 'u' :: (second ++ rest))) =
      (stringFrom .plain rest).map (pushChar (some (joinSurrogates high low))) := by
  rw [stringFrom_escape, stringFrom_unit names_high]
  simp only [finishUnit, leads, Bool.false_eq_true, ↓reduceIte]
  rw [stringFrom_low, stringFrom_unit names_low]
  simp only [finishUnit, ends, ↓reduceIte]
  cases stringFrom .plain rest <;> rfl

theorem surrogates_of_beyond {c : Char} (beyond : 0x10000 ≤ c.toNat) :
    (isLowSurrogate (0xD800 + (c.toNat - 0x10000) / 0x400) = false ∧
      isHighSurrogate (0xD800 + (c.toNat - 0x10000) / 0x400) = true) ∧
    isLowSurrogate (0xDC00 + (c.toNat - 0x10000) % 0x400) = true := by
  have valid : c.toNat < 0xD800 ∨ (0xDFFF < c.toNat ∧ c.toNat < 0x110000) := c.valid
  simp only [isLowSurrogate, isHighSurrogate, Bool.and_eq_true, Bool.and_eq_false_iff,
    decide_eq_true_eq, decide_eq_false_iff_not]
  omega

theorem stringFrom_spelledChar {c : Char} {spelled : List Char} (spells : SpellsChar c spelled)
    (rest : List Char) :
    stringFrom .plain (spelled ++ rest) =
      (stringFrom .plain rest).map (pushChar (some c)) := by
  cases spells with
  | plain quote backslash visible =>
      simp [stringFrom, quote, backslash, Nat.not_lt.mpr visible]
  | short letter escapes =>
      have other : letter ≠ 'u' := by
        rintro rfl
        cases escapes
      simp [stringFrom, other, escapes]
  | unit digits names =>
      have valid : c.toNat < 0xD800 ∨ (0xDFFF < c.toNat ∧ c.toNat < 0x110000) := c.valid
      have low : isLowSurrogate c.toNat = false := by simp [isLowSurrogate]; omega
      have high : isHighSurrogate c.toNat = false := by simp [isHighSurrogate]; omega
      rw [List.cons_append, List.cons_append, stringFrom_escape, stringFrom_unit names]
      simp [finishUnit, low, high, Char.ofNat_toNat]
  | pair first second beyond high low =>
      obtain ⟨leads, ends⟩ := surrogates_of_beyond beyond
      rw [List.cons_append, List.cons_append, List.append_assoc, List.cons_append,
        List.cons_append, stringFrom_pair leads ends high low, joinSurrogates_of_beyond beyond]

theorem stringFrom_spelled {text : List Char} (spells : SpellsChars text printed)
    (rest : List Char) : stringFrom .plain (printed ++ '"' :: rest) = .ok (text, rest) := by
  induction spells with
  | nil => simp [stringFrom]
  | cons first _ ih =>
      rw [List.append_assoc, stringFrom_spelledChar first, ih]
      rfl

theorem quotedString_spelled {text : String} (spells : SpellsString text printed)
    (rest : List Char) :
    ∃ tail, printed ++ rest = '"' :: tail ∧ quotedString tail = .ok (text, rest) := by
  obtain ⟨inner⟩ := spells
  refine ⟨_, by rw [List.cons_append, List.append_assoc, List.singleton_append], ?_⟩
  rw [quotedString, stringFrom_spelled inner]
  simp [Except.map, String.ofList_toList]

theorem key_spelled {name : String} (spells : SpellsString name printed) (rest : List Char) :
    key (printed ++ rest) = .ok (name, rest) := by
  obtain ⟨tail, text, read⟩ := quotedString_spelled spells rest
  rw [text, key, skipSpace_cons (by decide)]
  exact read

/-! ## Values -/

inductive Later : List (List Char) → List Char → Prop where
  | done {text : List Char} (blank : Blank text) : Later [] text
  | next {entry text before after : List Char} {rest : List (List Char)} (early : Blank before)
      (late : Blank after) (more : Later rest text) :
      Later (entry :: rest) (before ++ ',' :: (after ++ (entry ++ text)))

inductive Laid : List (List Char) → List Char → Prop where
  | none {text : List Char} (blank : Blank text) : Laid [] text
  | some {entry text before : List Char} {rest : List (List Char)} (blank : Blank before)
      (more : Later rest text) : Laid (entry :: rest) (before ++ (entry ++ text))

structure Entry where
  name : String
  key : List Char
  before : List Char
  after : List Char
  value : Json
  printed : List Char

namespace Entry

def member (entry : Entry) : String × Json :=
  (entry.name, entry.value)

def remainder (entry : Entry) : List Char :=
  entry.before ++ ':' :: (entry.after ++ entry.printed)

def text (entry : Entry) : List Char :=
  entry.key ++ entry.remainder

structure Keyed (entry : Entry) : Prop where
  spells : SpellsString entry.name entry.key
  early : Blank entry.before
  late : Blank entry.after

end Entry

/-- A text is a value, in which no part is inside more than so many arrays and objects. -/
inductive Spells : Nat → Json → List Char → Prop where
  | null (depth : Nat) : Spells depth .null ['n', 'u', 'l', 'l']
  | yes (depth : Nat) : Spells depth (.bool true) ['t', 'r', 'u', 'e']
  | no (depth : Nat) : Spells depth (.bool false) ['f', 'a', 'l', 's', 'e']
  | number (depth : Nat) (numeral : Numeral) (finite : numeral.IsFinite) :
      Spells depth (.number numeral.number) numeral.text
  | string (depth : Nat) {text : String} {printed : List Char}
      (spells : SpellsString text printed) : Spells depth (.string text) printed
  | array {depth : Nat} {items : List (List Char × Json)} {text : List Char}
      (each : ∀ item ∈ items, Spells depth item.2 item.1) (laid : Laid (items.map (·.1)) text) :
      Spells (depth + 1) (.array (items.map (·.2))) ('[' :: (text ++ [']']))
  | object {depth : Nat} {entries : List Entry} {text : List Char}
      (keyed : ∀ entry ∈ entries, entry.Keyed)
      (each : ∀ entry ∈ entries, Spells depth entry.value entry.printed)
      (laid : Laid (entries.map Entry.text) text) :
      Spells (depth + 1) (.object (entries.map Entry.member)) ('\x7b' :: (text ++ ['\x7d']))

/-- A reader gets the value from the text, if what follows does not continue a number. -/
def ReadsBefore (read : Read α) (printed : List Char) (found : α) : Prop :=
  ∀ rest, EndsNumeral rest → read (printed ++ rest) = .ok (found, rest)

theorem endsNumeral_cons {c : Char} (mark : isDigit c = false ∧ c ≠ '.' ∧ c ≠ 'e' ∧ c ≠ 'E')
    (tail : List Char) : EndsNumeral (c :: tail) := by
  intro first same
  cases same
  exact mark

theorem endsNumeral_blank (blank : Blank before) (ends : EndsNumeral rest) :
    EndsNumeral (before ++ rest) := by
  cases before with
  | nil => exact ends
  | cons c tail =>
      have space := blank c List.mem_cons_self
      refine endsNumeral_cons ?_ _
      simp only [isSpace, Bool.or_eq_true, decide_eq_true_eq] at space
      rcases space with ((rfl | rfl) | rfl) | rfl <;> decide

theorem Later.ends {entries : List (List Char)} {text : List Char} (later : Later entries text)
    {close : Char} (closes : close = ']' ∨ close = '\x7d') (rest : List Char) :
    EndsNumeral (text ++ close :: rest) := by
  have bracket : EndsNumeral (close :: rest) := by
    rcases closes with rfl | rfl <;> exact endsNumeral_cons (by decide) rest
  cases later with
  | done blank => exact endsNumeral_blank blank bracket
  | next early =>
      rw [List.append_assoc]
      exact endsNumeral_blank early (endsNumeral_cons (by decide) _)

theorem SpellsString.opens {text : String} (spells : SpellsString text printed) :
    Opens printed := by
  obtain ⟨inner⟩ := spells
  exact ⟨'"', _, rfl, by decide, by decide, by decide⟩

theorem opens_digit {c : Char} (digit : isDigit c = true) (tail : List Char) :
    Opens (c :: tail) := by
  refine ⟨c, tail, rfl, ?_, digit_ne digit rfl, digit_ne digit rfl⟩
  have space : c ≠ ' ' := digit_ne digit rfl
  have line : c ≠ '\n' := digit_ne digit rfl
  have tab : c ≠ '\t' := digit_ne digit rfl
  have carriage : c ≠ '\r' := digit_ne digit rfl
  simp [isSpace, space, line, tab, carriage]

theorem Numeral.opens (numeral : Numeral) : ∃ c tail, numeral.text = c :: tail ∧
    (c = '-' ∨ isDigit c = true) := by
  have first : ∃ c tail, numeral.whole = c :: tail ∧ isDigit c = true := by
    rcases numeral.started with zero | ⟨c, tail, whole, -⟩
    · exact ⟨'0', [], zero, rfl⟩
    · exact ⟨c, tail, whole, numeral.digital c (by simp [whole])⟩
  obtain ⟨c, tail, whole, digit⟩ := first
  cases negative : numeral.negative with
  | true => exact ⟨'-', _, by simp [Numeral.text, Numeral.sign, negative]; rfl, Or.inl rfl⟩
  | false =>
      exact ⟨c, _, by simp [Numeral.text, Numeral.sign, negative, whole]; rfl, Or.inr digit⟩

theorem Spells.opens {depth : Nat} {json : Json} (spells : Spells depth json printed) :
    Opens printed := by
  cases spells with
  | null | yes | no => exact ⟨_, _, rfl, by decide, by decide, by decide⟩
  | number _ numeral =>
      obtain ⟨c, tail, text, rfl | digit⟩ := numeral.opens
      · exact ⟨'-', tail, text, by decide, by decide, by decide⟩
      · rw [text]
        exact opens_digit digit tail
  | string _ spells => exact spells.opens
  | array | object => exact ⟨_, _, rfl, by decide, by decide, by decide⟩

/-! ## Reading items and members -/

theorem items_later_laid {item : Read α} {entries : List (List Char × α)}
    (reads : ∀ entry ∈ entries, Opens entry.1 ∧ ReadsBefore item entry.1 entry.2)
    {text : List Char} (later : Later (entries.map (·.1)) text) {fuel : Nat}
    (enough : entries.length < fuel) (rest : List Char) :
    items item fuel false (text ++ ']' :: rest) = .ok (entries.map (·.2), rest) := by
  induction entries generalizing fuel text with
  | nil =>
      cases fuel with
      | zero => contradiction
      | succ fuel =>
          obtain ⟨blank⟩ := later
          rw [items, nextEntry_blank blank, nextEntry_done (by decide)]
          rfl
  | cons entry others ih =>
      cases fuel with
      | zero => contradiction
      | succ fuel =>
          cases later with
          | next early late more =>
              obtain ⟨opens, read⟩ := reads entry List.mem_cons_self
              have tail := ih (fun other listed => reads other (List.mem_cons_of_mem _ listed))
                more (Nat.lt_of_succ_lt_succ enough)
              rw [List.append_assoc, items, nextEntry_blank early, List.cons_append,
                List.append_assoc, List.append_assoc, nextEntry_comma late (Or.inl rfl),
                nextEntry_later opens (Or.inl rfl)]
              simp only [bind, Except.bind, read _ (more.ends (Or.inl rfl) rest), tail, pure,
                Except.pure, List.map_cons]

theorem items_laid {item : Read α} {entries : List (List Char × α)}
    (reads : ∀ entry ∈ entries, Opens entry.1 ∧ ReadsBefore item entry.1 entry.2)
    {text : List Char} (laid : Laid (entries.map (·.1)) text) {fuel : Nat}
    (enough : entries.length < fuel) (rest : List Char) :
    items item fuel true (text ++ ']' :: rest) = .ok (entries.map (·.2), rest) := by
  cases fuel with
  | zero => contradiction
  | succ fuel =>
      cases entries with
      | nil =>
          obtain ⟨blank⟩ := laid
          rw [items, nextEntry_blank blank, nextEntry_done (by decide)]
          rfl
      | cons entry others =>
          cases laid with
          | some blank more =>
              obtain ⟨opens, read⟩ := reads entry List.mem_cons_self
              have tail := items_later_laid
                (fun other listed => reads other (List.mem_cons_of_mem _ listed)) more
                (Nat.lt_of_succ_lt_succ enough) rest
              rw [List.append_assoc, items, nextEntry_blank blank, List.append_assoc,
                nextEntry_first opens (Or.inl rfl)]
              simp only [bind, Except.bind, read _ (more.ends (Or.inl rfl) rest), tail, pure,
                Except.pure, List.map_cons]

def Takes (take : σ → String → Read σ) (step : σ → String × Json → Except Fault σ)
    (entry : Entry) : Prop :=
  entry.Keyed ∧ ∀ state rest, EndsNumeral rest →
    take state entry.name (entry.remainder ++ rest) = (step state entry.member).map (·, rest)

theorem Entry.Keyed.opens {entry : Entry} (keyed : entry.Keyed) : Opens entry.text :=
  keyed.spells.opens.append _

variable {take : σ → String → Read σ} {step : σ → String × Json → Except Fault σ}
  {entries : List Entry}

theorem members_later_laid (takes : ∀ entry ∈ entries, Takes take step entry) {text : List Char}
    (later : Later (entries.map Entry.text) text) {fuel : Nat} (enough : entries.length < fuel)
    (state : σ) (rest : List Char) :
    members take fuel false state (text ++ '\x7d' :: rest) =
      ((entries.map Entry.member).foldlM step state).map (·, rest) := by
  induction entries generalizing fuel text state with
  | nil =>
      cases fuel with
      | zero => contradiction
      | succ fuel =>
          obtain ⟨blank⟩ := later
          rw [members, nextEntry_blank blank, nextEntry_done (by decide)]
          rfl
  | cons entry others ih =>
      cases fuel with
      | zero => contradiction
      | succ fuel =>
          cases later with
          | next early late more =>
              obtain ⟨keyed, taken⟩ := takes entry List.mem_cons_self
              rw [List.append_assoc, members, nextEntry_blank early, List.cons_append,
                List.append_assoc, List.append_assoc, nextEntry_comma late (Or.inr rfl),
                nextEntry_later keyed.opens (Or.inr rfl)]
              simp only [bind, Except.bind, Entry.text, List.append_assoc,
                key_spelled keyed.spells, taken state _ (more.ends (Or.inr rfl) rest),
                List.map_cons, List.foldlM_cons]
              cases step state entry.member with
              | error fault => rfl
              | ok next =>
                  exact ih (fun other listed => takes other (List.mem_cons_of_mem _ listed)) more
                    (Nat.lt_of_succ_lt_succ enough) next

theorem members_laid (takes : ∀ entry ∈ entries, Takes take step entry) {text : List Char}
    (laid : Laid (entries.map Entry.text) text) {fuel : Nat} (enough : entries.length < fuel)
    (state : σ) (rest : List Char) :
    members take fuel true state (text ++ '\x7d' :: rest) =
      ((entries.map Entry.member).foldlM step state).map (·, rest) := by
  cases fuel with
  | zero => contradiction
  | succ fuel =>
      cases entries with
      | nil =>
          obtain ⟨blank⟩ := laid
          rw [members, nextEntry_blank blank, nextEntry_done (by decide)]
          rfl
      | cons entry others =>
          cases laid with
          | some blank more =>
              obtain ⟨keyed, taken⟩ := takes entry List.mem_cons_self
              rw [List.append_assoc, members, nextEntry_blank blank, List.append_assoc,
                nextEntry_first keyed.opens (Or.inr rfl)]
              simp only [bind, Except.bind, Entry.text, List.append_assoc,
                key_spelled keyed.spells, taken state _ (more.ends (Or.inr rfl) rest),
                List.map_cons, List.foldlM_cons]
              cases step state entry.member with
              | error fault => rfl
              | ok next =>
                  exact members_later_laid
                    (fun other listed => takes other (List.mem_cons_of_mem _ listed)) more
                    (Nat.lt_of_succ_lt_succ enough) next rest

-- Every entry takes a character, so the text is long enough for the bound on the loop.
theorem Later.length_le {printed : List (List Char)} {text : List Char}
    (later : Later printed text) : printed.length ≤ text.length := by
  induction later with
  | done => exact Nat.zero_le _
  | next early late more ih =>
      simp only [List.length_cons, List.length_append]
      omega

theorem Laid.length_le {printed : List (List Char)} {text : List Char} (laid : Laid printed text)
    (opens : ∀ entry ∈ printed, Opens entry) : printed.length ≤ text.length := by
  cases laid with
  | none => exact Nat.zero_le _
  | some blank more =>
      obtain ⟨c, tail, rfl, -⟩ := opens _ List.mem_cons_self
      have others := more.length_le
      simp only [List.length_cons, List.length_append]
      omega

theorem members_whole (takes : ∀ entry ∈ entries, Takes take step entry) {text : List Char}
    (laid : Laid (entries.map Entry.text) text) (state : σ) (rest : List Char) :
    members take ((text ++ '\x7d' :: rest).length + 1) true state (text ++ '\x7d' :: rest) =
      ((entries.map Entry.member).foldlM step state).map (·, rest) := by
  have long := laid.length_le (by
    intro printed listed
    obtain ⟨entry, present, rfl⟩ := List.mem_map.mp listed
    exact (takes entry present).1.opens)
  rw [List.length_map] at long
  refine members_laid takes laid ?_ state rest
  rw [List.length_append]
  omega

/-! ## Reading values -/

theorem value_scalar {c : Char} (visible : isSpace c = false) (bracket : c ≠ '[')
    (brace : c ≠ '\x7b') (depth : Nat) (tail : List Char) :
    value depth (c :: tail) = scalar (c :: tail) := by
  cases depth with
  | zero => rfl
  | succ depth =>
      rw [value, skipSpace_cons visible]
      split
      · rename_i same
        exact absurd (List.cons.inj same).1 bracket
      · rename_i same
        exact absurd (List.cons.inj same).1 brace
      · rfl

theorem scalar_numeral {numeral : Numeral} (finite : numeral.IsFinite)
    (ends : EndsNumeral rest) :
    scalar (numeral.text ++ rest) = .ok (.number numeral.number, rest) := by
  have read := numeral_spelled finite ends
  obtain ⟨c, tail, text, first⟩ := numeral.opens
  rw [text, List.cons_append] at read ⊢
  have opens : Opens (c :: tail) := by
    rw [← text]
    exact (Spells.number 0 numeral finite).opens
  obtain ⟨d, _, same, visible, -⟩ := opens
  obtain ⟨rfl, -⟩ := List.cons.inj same
  have letters : c ≠ 'n' ∧ c ≠ 't' ∧ c ≠ 'f' ∧ c ≠ '"' := by
    rcases first with rfl | digit
    · decide
    · exact ⟨digit_ne digit rfl, digit_ne digit rfl, digit_ne digit rfl, digit_ne digit rfl⟩
  simp [scalar, skipSpace_cons visible, letters, first, read, Except.map]

theorem array_spelled {depth : Nat} {items : List (List Char × Json)} {text : List Char}
    (reads : ∀ item ∈ items, Opens item.1 ∧ ReadsBefore (value depth) item.1 item.2)
    (laid : Laid (items.map (·.1)) text) (rest : List Char) :
    value (depth + 1) ('[' :: (text ++ ']' :: rest)) = .ok (.array (items.map (·.2)), rest) := by
  have long := laid.length_le (by
    intro entry listed
    obtain ⟨item, present, rfl⟩ := List.mem_map.mp listed
    exact (reads item present).1)
  rw [List.length_map] at long
  have enough : items.length < (text ++ ']' :: rest).length + 1 := by
    rw [List.length_append]
    omega
  have read := items_laid reads laid enough rest
  rw [value, skipSpace_cons (by decide)]
  simp only [bind, Except.bind, read, pure, Except.pure]

theorem foldlM_gather (before pairs : List (String × Json)) :
    pairs.foldlM (fun before pair => (.ok (before ++ [pair]) : Except Fault _)) before =
      .ok (before ++ pairs) := by
  induction pairs generalizing before with
  | nil => simp [pure, Except.pure]
  | cons pair rest ih =>
      rw [List.foldlM_cons]
      simp only [bind, Except.bind, ih, List.append_assoc, List.singleton_append]

theorem object_spelled {depth : Nat} {text : List Char} (keyed : ∀ entry ∈ entries, entry.Keyed)
    (reads : ∀ entry ∈ entries, ReadsBefore (value depth) entry.printed entry.value)
    (laid : Laid (entries.map Entry.text) text) (rest : List Char) :
    value (depth + 1) ('\x7b' :: (text ++ '\x7d' :: rest)) =
      .ok (.object (entries.map Entry.member), rest) := by
  have takes : ∀ entry ∈ entries, Takes (member (value depth))
      (fun before pair => .ok (before ++ [pair])) entry := by
    refine fun entry listed => ⟨keyed entry listed, fun state rest ends => ?_⟩
    have read := reads entry listed rest ends
    rw [Entry.remainder, List.append_assoc, List.cons_append, List.append_assoc, member,
      colon_blank (keyed entry listed).early]
    simp only [bind, Except.bind, value_blank (keyed entry listed).late, read, pure, Except.pure,
      Except.map, Entry.member]
  have read := members_whole takes laid [] rest
  rw [foldlM_gather, List.nil_append] at read
  rw [value, skipSpace_cons (by decide)]
  simp only [bind, Except.bind, read, Except.map, pure, Except.pure]

/-- A value is read from every spelling that reading is deep enough for. -/
theorem value_spelled {depth : Nat} {json : Json} (spells : Spells depth json printed) :
    ReadsBefore (value depth) printed json := by
  induction spells with
  | null | yes | no =>
      intro rest _
      rw [List.cons_append, value_scalar (by decide) (by decide) (by decide)]
      rfl
  | number depth numeral finite =>
      intro rest ends
      obtain ⟨c, tail, text, first⟩ := numeral.opens
      obtain ⟨d, _, same, visible, -⟩ := (Spells.number 0 numeral finite).opens
      rw [text] at same
      obtain ⟨rfl, -⟩ := List.cons.inj same
      have brackets : c ≠ '[' ∧ c ≠ '\x7b' := by
        rcases first with rfl | digit
        · decide
        · exact ⟨digit_ne digit rfl, digit_ne digit rfl⟩
      have read := scalar_numeral finite ends
      rw [text, List.cons_append] at read ⊢
      rw [value_scalar visible brackets.1 brackets.2]
      exact read
  | string depth spells =>
      intro rest _
      obtain ⟨tail, text, read⟩ := quotedString_spelled spells rest
      rw [text, value_scalar (by decide) (by decide) (by decide), scalar,
        skipSpace_cons (by decide)]
      simp [read, Except.map]
  | array each laid ih =>
      intro rest _
      rw [List.cons_append, List.append_assoc]
      exact array_spelled (fun item listed => ⟨(each item listed).opens, ih item listed⟩) laid rest
  | object keyed each laid ih =>
      intro rest _
      rw [List.cons_append, List.append_assoc]
      exact object_spelled keyed ih laid rest

/-- A document of a value is a spelling of it with blanks around. -/
inductive Document (json : Json) : String → Prop where
  | laid {before printed after : List Char} (early : Blank before)
      (spells : Spells maxDepth json printed) (late : Blank after) :
      Document json (String.ofList (before ++ (printed ++ after)))

theorem atEnd_blank (blank : Blank after) : atEnd after = .ok () := by
  have rest := skipSpace_blank blank []
  rw [List.append_nil] at rest
  rw [atEnd, rest]
  rfl

theorem blank_ends (blank : Blank after) : EndsNumeral after := by
  have nothing : EndsNumeral [] := fun _ first => by simp at first
  have ends := endsNumeral_blank blank nothing
  rwa [List.append_nil] at ends

theorem parse_document {json : Json} {text : String} (document : Document json text) :
    parse text = .ok json := by
  obtain ⟨early, spells, late⟩ := document
  rw [parse, whole, String.toList_ofList, value_blank early,
    value_spelled spells _ (blank_ends late)]
  simp only [bind, Except.bind, atEnd_blank late, pure, Except.pure]

/-! ## The printed layout is one of them -/

theorem spellsChar_escaped (c : Char) : SpellsChar c (escapeChar c) := by
  unfold escapeChar
  split
  · exact .short '"' rfl
  · exact .short '\\' rfl
  · exact .short 'b' rfl
  · exact .short 'f' rfl
  · exact .short 'n' rfl
  · exact .short 'r' rfl
  · exact .short 't' rfl
  · split
    · rename_i control
      have zero : hexValue? '0' = some 0 := rfl
      have first := hexValue?_hexDigit ⟨c.toNat / 16, by omega⟩
      have second := hexValue?_hexDigit ⟨c.toNat % 16, by omega⟩
      have unit : c.toNat = ((0 * 16 + 0) * 16 + c.toNat / 16) * 16 + c.toNat % 16 := by omega
      exact .unit _ (.four zero zero first second unit)
    · rename_i quote backslash _ _ _ _ _ visible
      exact .plain quote backslash (Nat.not_lt.mp visible)

theorem spellsString_printed (text : String) : SpellsString text (printString text) := by
  refine .quoted ?_
  induction text.toList with
  | nil => exact .nil
  | cons c rest ih => exact .cons (spellsChar_escaped c) ih

theorem spells_text (depth : Nat) (text : String) :
    Spells depth (.string text) (print (.string text)) := by
  rw [print]
  exact .string depth (spellsString_printed text)

theorem blank_nil : Blank [] :=
  List.forall_mem_nil _

theorem later_compact (entries : List (List Char)) :
    Later entries (entries.flatMap (',' :: ·)) := by
  induction entries with
  | nil => exact .done blank_nil
  | cons entry rest ih => exact @Later.next entry _ [] [] rest blank_nil blank_nil ih

theorem laid_compact (entries : List (List Char)) : Laid entries (commaSeparated entries) := by
  cases entries with
  | nil => exact .none blank_nil
  | cons entry rest =>
      rw [commaSeparated_cons]
      exact @Laid.some entry _ [] rest blank_nil (later_compact rest)

/-- An object is printed as one of its documents if its values are printed as they can be
spelled. -/
theorem document_render {pairs : List (String × Json)}
    (each : ∀ pair ∈ pairs, Spells (maxDepth - 1) pair.2 (print pair.2)) :
    Document (.object pairs) (Json.object pairs).render := by
  let entry (pair : String × Json) : Entry :=
    ⟨pair.1, printString pair.1, [], [], pair.2, print pair.2⟩
  have members : (pairs.map entry).map Entry.member = pairs := by
    rw [List.map_map]
    exact List.map_id _
  have texts : (pairs.map entry).map Entry.text = printMembers pairs := by
    rw [List.map_map, printMembers_eq]
    rfl
  have spells := @Spells.object (maxDepth - 1) (pairs.map entry) _
    (List.forall_mem_map.mpr fun pair _ => ⟨spellsString_printed pair.1, blank_nil, blank_nil⟩)
    (List.forall_mem_map.mpr each) (laid_compact _)
  rw [members, texts] at spells
  have document := Document.laid blank_nil spells blank_nil
  rwa [List.nil_append, List.append_nil] at document

end ChatRooms.Json
