import ChatRooms.Proofs.Json.Layout
import ChatRooms.Proofs.Wire.RoundTrip

/-! What a document of a tagged object decodes to depends on its members alone. However they are
spelled, they are gathered into the tag, if there is one and one only, and the others. -/
namespace ChatRooms.Wire

open Json

variable {tags : List String} {pairs : List (String × Json)} {printed rest : List Char}

/-! ## Reading the members -/

def gather (tags : List String) (state : Option String × List (String × Json))
    (pair : String × Json) : Except Fault (Option String × List (String × Json)) :=
  if pair.1 = tagName then
    match state.1, pair.2 with
    | none, .string tag =>
        if tags.contains tag then .ok (some tag, state.2) else .error .misshapen
    | _, _ => .error .misshapen
  else .ok (state.1, state.2 ++ [pair])

theorem string_of_quote {depth : Nat} {json : Json} (spells : Spells depth json printed)
    {tail : List Char} (quoted : printed = '"' :: tail) : ∃ text, json = .string text := by
  cases spells with
  | null | yes | no => simp at quoted
  | number _ numeral =>
      obtain ⟨c, _, text, first⟩ := numeral.opens
      rw [quoted] at text
      obtain ⟨rfl, -⟩ := List.cons.inj text
      rcases first with same | digit
      · exact absurd same (by decide)
      · exact absurd digit (by decide)
  | string => exact ⟨_, rfl⟩
  | array | object => simp at quoted

theorem refuse_spelled {depth : Nat} {json : Json} (spells : Spells depth json printed)
    (ends : EndsNumeral rest) : refuse (printed ++ rest) = .misshapen := by
  have read := value_spelled spells rest ends
  obtain ⟨c, tail, rfl, visible, -⟩ := spells.opens
  rw [List.cons_append] at read ⊢
  rw [refuse, skipSpace_cons visible]
  by_cases nested : c = '[' ∨ c = '\x7b'
  · simp [nested]
  · rw [value_scalar visible (fun same => nested (Or.inl same))
      (fun same => nested (Or.inr same))] at read
    simp [nested, read]

theorem checkedString_spelled {text : String} (spells : SpellsString text printed)
    (rest : List Char) :
    checkedString (tags.contains ·) (printed ++ rest) =
      if tags.contains text then .ok (text, rest) else .error .misshapen := by
  obtain ⟨tail, quoted, read⟩ := quotedString_spelled spells rest
  rw [quoted, checkedString, skipSpace_cons (by decide)]
  simp only [bind, Except.bind, read]
  rfl

theorem checkedString_blank {before : List Char} (blank : Blank before) (rest : List Char) :
    checkedString (tags.contains ·) (before ++ rest) =
      checkedString (tags.contains ·) rest := by
  unfold checkedString
  rw [skipSpace_blank blank]

/-- A value that is not a string is no tag. -/
theorem checkedString_refuses {depth : Nat} {json : Json} (spells : Spells depth json printed)
    (other : ∀ text, json ≠ .string text) (ends : EndsNumeral rest) :
    checkedString (tags.contains ·) (printed ++ rest) = .error .misshapen := by
  have refused := refuse_spelled spells ends
  obtain ⟨c, tail, rfl, visible, -⟩ := spells.opens
  have unquoted : c ≠ '"' := by
    rintro rfl
    obtain ⟨text, same⟩ := string_of_quote spells rfl
    exact other text same
  rw [List.cons_append] at refused ⊢
  rw [checkedString, skipSpace_cons visible]
  split
  · rename_i same
    exact absurd (List.cons.inj same).1 unquoted
  · rw [refused]

theorem takeMember_spelled {entry : Entry} (keyed : entry.Keyed)
    (spells : Spells (maxDepth - 1) entry.value entry.printed) :
    Takes (takeMember tags) (gather tags) entry := by
  refine ⟨keyed, fun state rest ends => ?_⟩
  rw [Entry.remainder, List.append_assoc, List.cons_append, List.append_assoc]
  by_cases tagged : entry.name = tagName
  · cases found : state.1 with
    | some tag => simp [takeMember, gather, Entry.member, tagged, found, Except.map]
    | none =>
        simp only [takeMember, gather, Entry.member, tagged, found, ↓reduceIte,
          Option.isSome_none, Bool.false_eq_true, bind, Except.bind, colon_blank keyed.early,
          checkedString_blank keyed.late]
        by_cases string : ∃ text, entry.value = .string text
        · obtain ⟨text, same⟩ := string
          rw [same] at spells ⊢
          cases spells with
          | string _ spells =>
              rw [checkedString_spelled spells]
              by_cases known : tags.contains text = true <;>
                simp only [known, Bool.false_eq_true, ↓reduceIte, Except.map, pure, Except.pure]
        · have other : ∀ text, entry.value ≠ .string text := fun text same => string ⟨text, same⟩
          rw [checkedString_refuses spells other ends]
          cases value : entry.value with
          | string text => exact absurd value (other text)
          | _ => rfl
  · simp only [takeMember, gather, Entry.member, tagged, ↓reduceIte, member, bind, Except.bind,
      colon_blank keyed.early, value_blank keyed.late, value_spelled spells rest ends, pure,
      Except.pure, Except.map]

theorem gather_other {pair : String × Json} (other : pair.1 ≠ tagName)
    (state : Option String × List (String × Json)) :
    gather tags state pair = .ok (state.1, state.2 ++ [pair]) :=
  if_neg other

theorem filter_tag_other {pair : String × Json} (other : pair.1 ≠ tagName)
    (pairs : List (String × Json)) :
    (pair :: pairs).filter (·.1 = tagName) = pairs.filter (·.1 = tagName) :=
  List.filter_cons_of_neg (by simpa using other)

theorem filter_tag_tag (value : Json) (pairs : List (String × Json)) :
    ((tagName, value) :: pairs).filter (·.1 = tagName) =
      (tagName, value) :: pairs.filter (·.1 = tagName) :=
  List.filter_cons_of_pos (by simp)

theorem foldlM_gather_tagged (tag : String) (before : List (String × Json)) :
    pairs.foldlM (gather tags) (some tag, before) =
      if pairs.filter (·.1 = tagName) = [] then .ok (some tag, before ++ pairs)
      else .error .misshapen := by
  induction pairs generalizing before with
  | nil => simp [pure, Except.pure]
  | cons pair others ih =>
      rw [List.foldlM_cons]
      by_cases named : pair.1 = tagName
      · simp [gather, named, bind, Except.bind]
      · rw [gather_other named, filter_tag_other named]
        simp [bind, Except.bind, ih]

theorem filter_of_untagged (none : pairs.filter (·.1 = tagName) = []) :
    pairs.filter (·.1 ≠ tagName) = pairs := by
  refine List.filter_eq_self.mpr fun pair listed => ?_
  simpa using List.filter_eq_nil_iff.mp none pair listed

/-- Gathering all members finds the tag if there is one and one only, and keeps the others. -/
theorem foldlM_gather_untagged (before : List (String × Json)) :
    pairs.foldlM (gather tags) (none, before) =
      match pairs.filter (·.1 = tagName) with
      | [] => .ok (none, before ++ pairs)
      | [(_, .string tag)] =>
          if tags.contains tag then .ok (some tag, before ++ pairs.filter (·.1 ≠ tagName))
          else .error .misshapen
      | _ => .error .misshapen := by
  induction pairs generalizing before with
  | nil => simp [pure, Except.pure]
  | cons pair others ih =>
      rw [List.foldlM_cons]
      by_cases named : pair.1 = tagName
      · obtain ⟨name, value⟩ := pair
        obtain rfl : name = tagName := named
        rw [filter_tag_tag, List.filter_cons_of_neg (by simp)]
        cases value with
        | string tag =>
            by_cases known : tags.contains tag = true
            · simp only [gather, known, ↓reduceIte, bind, Except.bind, foldlM_gather_tagged]
              cases more : others.filter (·.1 = tagName) with
              | nil => simp only [↓reduceIte, filter_of_untagged more, known]
              | cons => rfl
            · simp only [gather, known, ↓reduceIte, bind, Except.bind, Bool.false_eq_true]
              cases others.filter (·.1 = tagName) with
              | nil => exact (if_neg known).symm
              | cons => rfl
        | _ => rfl
      · rw [gather_other named, filter_tag_other named, List.filter_cons_of_pos (by simpa)]
        simp [bind, Except.bind, ih]

theorem readTagged_spelled (spells : Spells maxDepth (.object pairs) printed)
    (rest : List Char) :
    readTagged tags (printed ++ rest) =
      match tagged? tags (.object pairs) with
      | some found => .ok (found, rest)
      | none => .error .misshapen := by
  generalize whole : Json.object pairs = json at spells
  cases spells with
  | object keyed each laid =>
      rename_i entries text
      obtain rfl := Json.object.inj whole
      have takes : ∀ entry ∈ entries, Takes (takeMember tags) (gather tags) entry :=
        fun entry listed => takeMember_spelled (keyed entry listed) (each entry listed)
      have read := members_whole takes laid (none, []) rest
      rw [foldlM_gather_untagged, List.nil_append, List.nil_append] at read
      rw [List.cons_append, List.append_assoc, List.singleton_append, readTagged,
        skipSpace_cons (by decide), tagged?]
      simp only [bind, Except.bind, read]
      cases (entries.map Entry.member).filter (·.1 = tagName) with
      | nil => rfl
      | cons first more =>
          obtain ⟨_, value⟩ := first
          cases more with
          | cons => cases value <;> rfl
          | nil =>
              cases value with
              | string tag =>
                  by_cases known : tags.contains tag = true
                  · simp only [known, ↓reduceIte, Except.map, pure, Except.pure]
                  · simp only [known, ↓reduceIte, Except.map, Bool.false_eq_true]
              | _ => rfl
  | _ => simp at whole

theorem readTagged_blank {before : List Char} (blank : Blank before) (rest : List Char) :
    readTagged tags (before ++ rest) = readTagged tags rest := by
  unfold readTagged
  rw [skipSpace_blank blank]

/-- What the members of an object mean is all that its document is read for. -/
theorem readDocument_document {α : Type} {ofTagged? : Tagged → Option α} {text : String}
    (document : Document (.object pairs) text) :
    readDocument tags ofTagged? text =
      match (tagged? tags (.object pairs)).bind ofTagged? with
      | some found => .ok found
      | none => .error .misshapen := by
  obtain ⟨early, spells, late⟩ := document
  simp only [readDocument, whole, String.toList_ofList, readTagged_blank early,
    readTagged_spelled spells, bind, Except.bind]
  cases tagged? tags (.object pairs) with
  | none => rfl
  | some found =>
      cases means : ofTagged? found with
      | none => simp [means]
      | some result => simp [means, atEnd_blank late, pure, Except.pure]

end ChatRooms.Wire
