import ChatRooms.Proofs.Text.Utf8
import ChatRooms.Text.Lowercase
import Mathlib.Data.Bool.AllAny
import Mathlib.Data.List.Forall2

/-! The texts that a word in plain letters is the lower-case form of. Two letters outside ASCII have
a lower-case form inside it, the Kelvin sign and the dotted capital I; a word without a k is the
lower-case form of nothing but itself with some letters made capital. -/
namespace ChatRooms.Text

/-- The slash and the letters that are the lower-case form of one other character at most. -/
def plainLetters : List Char := "/abcdefghijlmnopqrstuvwxyz".toList

def CaseVariant (word letters : List Char) : Prop :=
  List.Forall₂ (fun c d => c = d ∨ c = d.toUpper) word letters

instance (word letters : List Char) : Decidable (CaseVariant word letters) :=
  inferInstanceAs (Decidable (List.Forall₂ _ word letters))

section Plain
variable {c d : Char}

theorem plain_ascii : ∀ d ∈ plainLetters, 0 < d.toNat ∧ d.toNat < 0x80 ∧ d ≠ 'k' :=
  List.all_iff_forall_prop.mp (by decide)

theorem toUpper_of_capital :
    ∀ d ∈ plainLetters, 0x61 ≤ d.toNat → d.toUpper.toNat = d.toNat - 0x20 :=
  List.all_iff_forall_prop.mp (by decide)

theorem lowerChar_plain : ∀ d ∈ plainLetters, lowerChar d = d ∧ lowerChar d.toUpper = d :=
  List.all_iff_forall_prop.mp (by decide +kernel)

theorem not_capital_sigma :
    ∀ d ∈ plainLetters, d ≠ 'Σ' ∧ d.toUpper ≠ 'Σ' ∧ d ≠ 'İ' ∧ d.toUpper ≠ 'İ' :=
  List.all_iff_forall_prop.mp (by decide)

-- All other runs lead out of ASCII.
theorem run_cases {run : CaseRun} (listed : run ∈ lowerRuns) :
    (run.first = 0x41 ∧ run.partner = 0x61) ∨
      (run.first = 0x212A ∧ run.last = 0x212A ∧ run.partner = 'k'.toNat) ∨ 0x80 ≤ run.partner := by
  revert run
  decide +kernel

theorem toNat_eq_of_ofNat {code : Nat} (same : Char.ofNat code = d) (plain : d ∈ plainLetters) :
    code = d.toNat := by
  by_cases valid : code.isValidChar
  · rw [← same, Utf8.toNat_ofNat valid]
  · rw [Char.ofNat, dif_neg valid] at same
    have positive := (plain_ascii d plain).1
    subst same
    contradiction

theorem covers_bounds {run : CaseRun} {code : Nat} (covered : run.covers code = true) :
    run.first ≤ code ∧ code ≤ run.last := by
  simp only [CaseRun.covers, Bool.and_eq_true, decide_eq_true_eq] at covered
  exact covered.1

theorem lowerChar_eq_iff (plain : d ∈ plainLetters) :
    lowerChar c = d ↔ c = d ∨ c = d.toUpper := by
  constructor
  · intro lowered
    unfold lowerChar at lowered
    split at lowered
    · rename_i run found
      have covered : run.covers c.toNat = true := by
        simpa using List.find?_some found
      obtain ⟨least, most⟩ := covers_bounds covered
      have code := toNat_eq_of_ofNat lowered plain
      obtain ⟨-, ascii, other⟩ := plain_ascii d plain
      rcases run_cases (List.mem_of_find?_eq_some found) with
        ⟨first, partner⟩ | ⟨first, last, partner⟩ | partner
      · have capital := toUpper_of_capital d plain (by omega)
        exact Or.inr (Char.toNat_inj.mp (by omega))
      · exact absurd (Char.toNat_inj.mp (by omega)) other
      · omega
    · exact Or.inl lowered
  · rintro (rfl | rfl)
    · exact (lowerChar_plain _ plain).1
    · exact (lowerChar_plain _ plain).2

end Plain

theorem lowerSigma_not_plain (before after : List Char) :
    lowerSigma before after ∉ plainLetters := by
  unfold lowerSigma
  split <;> decide

/-- Neither what precedes a letter nor what follows it has a part in whether it becomes plain. -/
theorem lowerAfter_eq_iff {word letters : List Char} (before : List Char)
    (plain : ∀ d ∈ letters, d ∈ plainLetters) :
    lowerAfter before word = letters ↔ CaseVariant word letters := by
  induction word generalizing before letters with
  | nil => simp only [lowerAfter, CaseVariant, List.forall₂_nil_left_iff, eq_comm]
  | cons c rest ih =>
      cases letters with
      | nil =>
          have longer : lowerAfter before (c :: rest) ≠ [] := by
            rw [lowerAfter]
            split_ifs <;> simp
          simp only [longer, CaseVariant, List.forall₂_nil_right_iff, List.cons_ne_nil]
      | cons d later =>
          have first := plain d List.mem_cons_self
          have others := not_capital_sigma d first
          have tail := ih (c :: before) fun e listed => plain e (List.mem_cons_of_mem _ listed)
          simp only [CaseVariant, List.forall₂_cons] at tail ⊢
          rw [lowerAfter]
          by_cases sigma : c = 'Σ'
          · have differs : lowerSigma before rest ≠ d := fun same =>
              lowerSigma_not_plain before rest (same ▸ first)
            grind
          · by_cases dotted : c = 'İ'
            · have mark : '\u0307' ∉ plainLetters := by decide
              grind
            · rw [if_neg sigma, if_neg dotted, List.singleton_append, List.cons.injEq,
                lowerChar_eq_iff first, tail]

theorem lowercase_eq_iff {word letters : List Char} (plain : ∀ d ∈ letters, d ∈ plainLetters) :
    lowercase (String.ofList word) = String.ofList letters ↔ CaseVariant word letters := by
  rw [lowercase, String.toList_ofList, String.ofList_inj]
  exact lowerAfter_eq_iff [] plain

example : CaseVariant "/qUIt".toList "/quit".toList := by decide

end ChatRooms.Text
