import ChatRooms.Json.Printer
import ChatRooms.Json.Reader

/-! Printed JSON is read back. A string ends at its closing quote however its characters are
escaped, and items and members at the bracket that closes them, so nothing that follows has a part
in what is read. -/
namespace ChatRooms.Json

variable {α σ : Type}

def Reads (read : Read α) (printed : List Char) (found : α) : Prop :=
  ∀ rest, read (printed ++ rest) = .ok (found, rest)

theorem hexValue?_hexDigit :
    ∀ digit : Fin 16, hexValue? (hexDigit digit) = some digit.val := by
  decide

theorem stringFrom_hex {c : Char} {digit : Nat} (seen unit : Nat) (high : Option Nat)
    (rest : List Char) (early : seen < 3) (hex : hexValue? c = some digit) :
    stringFrom (.hex seen unit high) (c :: rest) =
      stringFrom (.hex (seen + 1) (unit * 16 + digit) high) rest := by
  simp [stringFrom, hex, early]

-- The escape of a control character, which is below the surrogates.
theorem stringFrom_control {c : Char} (control : c.toNat < 0x20) (rest : List Char) :
    stringFrom .plain (['\\', 'u', '0', '0', hexDigit (c.toNat / 16), hexDigit (c.toNat % 16)] ++
      rest) = (stringFrom .plain rest).map (pushChar (some c)) := by
  have zero : hexValue? '0' = some 0 := rfl
  have first := hexValue?_hexDigit ⟨c.toNat / 16, by omega⟩
  have second := hexValue?_hexDigit ⟨c.toNat % 16, by omega⟩
  have opened (text : List Char) : stringFrom .plain ('\\' :: 'u' :: text) =
      stringFrom (.hex 0 0 none) text := by simp [stringFrom]
  have unit : ((0 * 16 + 0) * 16 + 0) * 16 + c.toNat / 16 = c.toNat / 16 := by omega
  have whole : c.toNat / 16 * 16 + c.toNat % 16 = c.toNat := by omega
  have low : isLowSurrogate c.toNat = false := by simp [isLowSurrogate]; omega
  have high : isHighSurrogate c.toNat = false := by simp [isHighSurrogate]; omega
  simp only [List.cons_append, List.nil_append]
  rw [opened, stringFrom_hex 0 _ _ _ (by decide) zero, stringFrom_hex 1 _ _ _ (by decide) zero,
    stringFrom_hex 2 _ _ _ (by decide) first, unit]
  simp [stringFrom, second, whole, finishUnit, low, high, Char.ofNat_toNat]

theorem stringFrom_escapeChar (c : Char) (rest : List Char) :
    stringFrom .plain (escapeChar c ++ rest) =
      (stringFrom .plain rest).map (pushChar (some c)) := by
  unfold escapeChar
  split
  · simp [stringFrom, shortEscape?]
  · simp [stringFrom, shortEscape?]
  · simp [stringFrom, shortEscape?]
  · simp [stringFrom, shortEscape?]
  · simp [stringFrom, shortEscape?]
  · simp [stringFrom, shortEscape?]
  · simp [stringFrom, shortEscape?]
  · rename_i quote backslash _ _ _ _ _
    split
    · rename_i control
      exact stringFrom_control control rest
    · rename_i visible
      have no_quote : c ≠ '"' := quote
      have no_backslash : c ≠ '\\' := backslash
      simp [stringFrom, no_quote, no_backslash, visible]

theorem stringFrom_escaped (text rest : List Char) :
    stringFrom .plain (text.flatMap escapeChar ++ '"' :: rest) = .ok (text, rest) := by
  induction text with
  | nil => simp [stringFrom]
  | cons c tail ih =>
      rw [List.flatMap_cons, List.append_assoc, stringFrom_escapeChar, ih]
      rfl

theorem quotedString_escaped (text : String) (rest : List Char) :
    quotedString (text.toList.flatMap escapeChar ++ '"' :: rest) = .ok (text, rest) := by
  simp [quotedString, stringFrom_escaped, Except.map, String.ofList_toList]

theorem printString_append (text : String) (rest : List Char) :
    printString text ++ rest = '"' :: (text.toList.flatMap escapeChar ++ '"' :: rest) := by
  simp [printString]

theorem skipSpace_cons {c : Char} (visible : isSpace c = false) (rest : List Char) :
    skipSpace (c :: rest) = c :: rest := by
  simp [skipSpace, visible]

theorem key_printed (name : String) : Reads key (printString name) name := by
  intro rest
  rw [printString_append, key, skipSpace_cons (by decide)]
  exact quotedString_escaped name rest

theorem colon_cons (rest : List Char) : colon (':' :: rest) = .ok rest := by
  rw [colon, skipSpace_cons (by decide)]
  rfl

theorem scalar_string (text : String) (rest : List Char) :
    scalar (printString text ++ rest) = .ok (.string text, rest) := by
  rw [printString_append, scalar, skipSpace_cons (by decide)]
  simp [quotedString_escaped, Except.map]

theorem value_string (depth : Nat) (text : String) :
    Reads (value depth) (print (.string text)) (.string text) := by
  intro rest
  rw [print]
  cases depth with
  | zero => exact scalar_string text rest
  | succ depth =>
      have start : skipSpace (printString text ++ rest) = printString text ++ rest := by
        rw [printString_append, skipSpace_cons (by decide)]
      rw [value, start]
      split
      · rename_i head
        rw [printString_append] at head
        cases head
      · rename_i head
        rw [printString_append] at head
        cases head
      · exact scalar_string text rest

/-! Items and members -/

def Opens (printed : List Char) : Prop :=
  ∃ c tail, printed = c :: tail ∧ isSpace c = false ∧ c ≠ ']' ∧ c ≠ '\x7d'

theorem printString_opens (text : String) : Opens (printString text) :=
  ⟨'"', _, rfl, by decide, by decide, by decide⟩

theorem Opens.append {printed : List Char} (opens : Opens printed) (rest : List Char) :
    Opens (printed ++ rest) := by
  obtain ⟨c, tail, rfl, visible⟩ := opens
  exact ⟨c, tail ++ rest, rfl, visible⟩

theorem commaSeparated_cons (entry : List Char) (rest : List (List Char)) :
    commaSeparated (entry :: rest) = entry ++ rest.flatMap (',' :: ·) := by
  induction rest generalizing entry with
  | nil => simp [commaSeparated]
  | cons next rest ih => simp [commaSeparated, ih]

theorem nextEntry_done {close : Char} (visible : isSpace close = false) (first : Bool)
    (rest : List Char) : nextEntry close first (close :: rest) = .ok (.done rest) := by
  simp [nextEntry, skipSpace_cons visible]

theorem nextEntry_first {close : Char} {printed : List Char} (opens : Opens printed)
    (closes : close = ']' ∨ close = '\x7d') (rest : List Char) :
    nextEntry close true (printed ++ rest) = .ok (.more (printed ++ rest)) := by
  obtain ⟨c, tail, rfl, visible, bracket, brace⟩ := opens
  have goes_on : c ≠ close := by
    rcases closes with rfl | rfl <;> assumption
  simp [nextEntry, skipSpace_cons visible, goes_on]

theorem nextEntry_later {close : Char} {printed : List Char} (opens : Opens printed)
    (closes : close = ']' ∨ close = '\x7d') (rest : List Char) :
    nextEntry close false (',' :: (printed ++ rest)) = .ok (.more (printed ++ rest)) := by
  obtain ⟨c, tail, rfl, visible, bracket, brace⟩ := opens
  have goes_on : c ≠ close ∧ ',' ≠ close := by
    rcases closes with rfl | rfl
    · exact ⟨bracket, by decide⟩
    · exact ⟨brace, by decide⟩
  have comma : isSpace ',' = false := by decide
  simp [nextEntry, skipSpace_cons comma, skipSpace_cons visible, goes_on.1, goes_on.2]

theorem items_later {item : Read α} {entries : List (List Char × α)}
    (reads : ∀ entry ∈ entries, Opens entry.1 ∧ Reads item entry.1 entry.2) {fuel : Nat}
    (enough : entries.length < fuel) (rest : List Char) :
    items item fuel false (entries.flatMap (',' :: ·.1) ++ ']' :: rest) =
      .ok (entries.map (·.2), rest) := by
  induction entries generalizing fuel with
  | nil =>
      cases fuel with
      | zero => contradiction
      | succ fuel => simp [items, nextEntry_done, bind, Except.bind, pure, Except.pure, isSpace]
  | cons entry later ih =>
      cases fuel with
      | zero => contradiction
      | succ fuel =>
          obtain ⟨opens, read⟩ := reads entry List.mem_cons_self
          have tail := ih (fun other listed => reads other (List.mem_cons_of_mem _ listed))
            (Nat.lt_of_succ_lt_succ enough)
          rw [List.flatMap_cons, List.append_assoc, List.cons_append, items,
            nextEntry_later opens (Or.inl rfl)]
          simp [bind, Except.bind, read _, tail, pure, Except.pure]

theorem items_printed {item : Read α} {entries : List (List Char × α)}
    (reads : ∀ entry ∈ entries, Opens entry.1 ∧ Reads item entry.1 entry.2) {fuel : Nat}
    (enough : entries.length < fuel) (rest : List Char) :
    items item fuel true (commaSeparated (entries.map (·.1)) ++ ']' :: rest) =
      .ok (entries.map (·.2), rest) := by
  cases fuel with
  | zero => contradiction
  | succ fuel =>
      cases entries with
      | nil =>
          simp [items, commaSeparated, nextEntry_done, bind, Except.bind, pure, Except.pure,
            isSpace]
      | cons entry later =>
          obtain ⟨opens, read⟩ := reads entry List.mem_cons_self
          have tail := items_later
            (fun other listed => reads other (List.mem_cons_of_mem _ listed))
            (Nat.lt_of_succ_lt_succ enough) rest
          rw [List.map_cons, commaSeparated_cons, List.append_assoc, List.flatMap_map, items,
            nextEntry_first opens (Or.inl rfl)]
          simp [bind, Except.bind, read _, tail, pure, Except.pure]

theorem printItems_eq (values : List Json) : printItems values = values.map print := by
  induction values with
  | nil => rfl
  | cons value rest ih => rw [printItems, ih, List.map_cons]

/-- The members after the first, read one by one into a state. -/
theorem members_later (take : σ → String → Read σ) {after : σ → String × Json → σ}
    {entries : List (String × Json)}
    (reads : ∀ entry ∈ entries, ∀ state,
      Reads (take state entry.1) (':' :: print entry.2) (after state entry))
    {fuel : Nat} (enough : entries.length < fuel) (state : σ) (rest : List Char) :
    members take fuel false state
        (entries.flatMap (fun entry => ',' :: (printString entry.1 ++ ':' :: print entry.2)) ++
          '\x7d' :: rest) =
      .ok (entries.foldl after state, rest) := by
  induction entries generalizing fuel state with
  | nil =>
      cases fuel with
      | zero => contradiction
      | succ fuel => simp [members, nextEntry_done, bind, Except.bind, pure, Except.pure, isSpace]
  | cons entry later ih =>
      cases fuel with
      | zero => contradiction
      | succ fuel =>
          have read := reads entry List.mem_cons_self state
          have tail := ih (fun other listed => reads other (List.mem_cons_of_mem _ listed))
            (Nat.lt_of_succ_lt_succ enough) (after state entry)
          rw [List.flatMap_cons, List.append_assoc, List.cons_append, List.append_assoc, members,
            nextEntry_later (printString_opens entry.1) (Or.inr rfl)]
          simp only [bind, Except.bind, key_printed entry.1 _, read _, tail, List.foldl_cons]

theorem printMembers_eq (members : List (String × Json)) :
    printMembers members =
      members.map fun entry => printString entry.1 ++ ':' :: print entry.2 := by
  induction members with
  | nil => rfl
  | cons entry rest ih =>
      obtain ⟨name, value⟩ := entry
      rw [printMembers, ih, List.map_cons]

-- Every entry takes a character, so the text is long enough for the bound on the loop.
theorem length_le_commaSeparated (entries : List (List Char))
    (opens : ∀ entry ∈ entries, Opens entry) :
    entries.length ≤ (commaSeparated entries).length := by
  cases entries with
  | nil => simp
  | cons entry later =>
      obtain ⟨c, tail, rfl, _⟩ := opens entry List.mem_cons_self
      have one_each : later.length ≤ (later.flatMap (',' :: ·)).length := by
        clear opens
        induction later with
        | nil => simp
        | cons next rest ih =>
            simp only [List.flatMap_cons, List.length_append, List.length_cons]
            omega
      rw [commaSeparated_cons]
      simp only [List.length_append, List.length_cons]
      omega

theorem value_strings (depth : Nat) (texts : List String) :
    Reads (value (depth + 1)) (print (.array (texts.map .string)))
      (.array (texts.map .string)) := by
  intro rest
  let entries := texts.map fun text => (printString text, Json.string text)
  have reads : ∀ entry ∈ entries, Opens entry.1 ∧ Reads (value depth) entry.1 entry.2 := by
    intro entry listed
    obtain ⟨text, _, rfl⟩ := List.mem_map.mp listed
    exact ⟨printString_opens text, value_string depth text⟩
  have printed : printItems (texts.map Json.string) = entries.map (·.1) := by
    simp [entries, printItems_eq, print, Function.comp_def]
  have values : entries.map (·.2) = texts.map Json.string := by
    simp [entries, Function.comp_def]
  have enough : entries.length <
      (commaSeparated (entries.map (·.1)) ++ ']' :: rest).length + 1 := by
    have long := length_le_commaSeparated (entries.map (·.1)) (by
      intro entry listed
      obtain ⟨other, present, rfl⟩ := List.mem_map.mp listed
      exact (reads other present).1)
    simp only [List.length_map, List.length_append, List.length_cons] at long ⊢
    omega
  rw [print, printed, List.cons_append, List.append_assoc, List.singleton_append, value,
    skipSpace_cons (by decide)]
  simp only [bind, Except.bind, items_printed reads enough rest, values, pure, Except.pure]

end ChatRooms.Json
