import ChatRooms.Text.Utf8
import Mathlib.Data.List.Basic

/-! Decoding undoes UTF-8 encoding, and accepts nothing but what encoding gives. -/
namespace ChatRooms.Text.Utf8

def encode (text : String) : List UInt8 :=
  text.toList.flatMap String.utf8EncodeChar

theorem encode_toByteArray (text : String) : (encode text).toByteArray = text.toUTF8 :=
  String.utf8Encode_toList

@[simp] theorem encode_append (first second : String) :
    encode (first ++ second) = encode first ++ encode second := by
  simp [encode]

/-! The classes of octets, in numbers -/

theorem Lead.of_eq (a : UInt8) : Lead.of a =
    if a.toNat < 0x80 then .one
    else if 0xC2 ≤ a.toNat ∧ a.toNat ≤ 0xDF then .two
    else if 0xE0 ≤ a.toNat ∧ a.toNat ≤ 0xEF then .three
    else if 0xF0 ≤ a.toNat ∧ a.toNat ≤ 0xF4 then .four
    else .none := by
  simp [Lead.of, UInt8.lt_iff_toNat_lt, UInt8.le_iff_toNat_le]

theorem lead_one_iff (a : UInt8) : Lead.of a = .one ↔ a.toNat < 0x80 := by
  rw [Lead.of_eq]
  split_ifs <;> simp_all

theorem lead_two_iff (a : UInt8) : Lead.of a = .two ↔ 0xC2 ≤ a.toNat ∧ a.toNat ≤ 0xDF := by
  rw [Lead.of_eq]
  split_ifs <;> simp_all
  omega

theorem lead_three_iff (a : UInt8) : Lead.of a = .three ↔ 0xE0 ≤ a.toNat ∧ a.toNat ≤ 0xEF := by
  rw [Lead.of_eq]
  split_ifs <;> simp_all <;> omega

theorem lead_four_iff (a : UInt8) : Lead.of a = .four ↔ 0xF0 ≤ a.toNat ∧ a.toNat ≤ 0xF4 := by
  rw [Lead.of_eq]
  split_ifs <;> simp_all <;> omega

theorem isTail_iff (b : UInt8) : isTail b = true ↔ 0x80 ≤ b.toNat ∧ b.toNat ≤ 0xBF := by
  simp [isTail, UInt8.le_iff_toNat_le]

theorem secondOfThree_iff (a b : UInt8) : secondOfThree a b = true ↔
    (0x80 ≤ b.toNat ∧ b.toNat ≤ 0xBF) ∧ (a.toNat = 0xE0 → 0xA0 ≤ b.toNat) ∧
      (a.toNat = 0xED → b.toNat ≤ 0x9F) := by
  simp only [secondOfThree, ← UInt8.toNat_inj, isTail, UInt8.le_iff_toNat_le]
  split
  · simp_all
    omega
  · split
    · simp_all
      omega
    · simp_all

theorem secondOfFour_iff (a b : UInt8) : secondOfFour a b = true ↔
    (0x80 ≤ b.toNat ∧ b.toNat ≤ 0xBF) ∧ (a.toNat = 0xF0 → 0x90 ≤ b.toNat) ∧
      (a.toNat = 0xF4 → b.toNat ≤ 0x8F) := by
  simp only [secondOfFour, ← UInt8.toNat_inj, isTail, UInt8.le_iff_toNat_le]
  split
  · simp_all
    omega
  · split
    · simp_all
      omega
    · simp_all

/-! One character -/

theorem ofNat_eq (octet : UInt8) {code : Nat} (same : code = octet.toNat) :
    UInt8.ofNat code = octet := by
  rw [same, UInt8.ofNat_toNat]

theorem toNat_ofNat {code : Nat} (valid : code.isValidChar) : (Char.ofNat code).toNat = code := by
  unfold Char.ofNat
  rw [dif_pos valid]
  rfl

theorem encode_single {a : UInt8} (lead : Lead.of a = .one) :
    String.utf8EncodeChar (Char.ofNat a.toNat) = [a] := by
  rw [lead_one_iff] at lead
  have code : (Char.ofNat a.toNat).val.toNat = a.toNat := toNat_ofNat (Or.inl (by omega))
  simp only [String.utf8EncodeChar, code]
  rw [if_pos (by omega), UInt8.ofNat_toNat]

theorem encode_pair {a b : UInt8} (lead : Lead.of a = .two) (second : isTail b = true) :
    String.utf8EncodeChar (pair a b) = [a, b] := by
  rw [lead_two_iff] at lead
  rw [isTail_iff] at second
  have code : (pair a b).val.toNat = a.toNat % 0x20 * 0x40 + b.toNat % 0x40 :=
    toNat_ofNat (Or.inl (by unfold low; omega))
  simp only [String.utf8EncodeChar, code]
  rw [if_neg (by omega), if_pos (by omega), ofNat_eq a (by omega), ofNat_eq b (by omega)]

theorem encode_triple {a b c : UInt8} (lead : Lead.of a = .three)
    (second : secondOfThree a b = true) (third : isTail c = true) :
    String.utf8EncodeChar (triple a b c) = [a, b, c] := by
  rw [lead_three_iff] at lead
  rw [secondOfThree_iff] at second
  rw [isTail_iff] at third
  have code : (triple a b c).val.toNat =
      a.toNat % 0x10 * 0x1000 + b.toNat % 0x40 * 0x40 + c.toNat % 0x40 :=
    toNat_ofNat (by unfold low Nat.isValidChar; omega)
  simp only [String.utf8EncodeChar, code]
  rw [if_neg (by omega), if_neg (by omega), if_pos (by omega), ofNat_eq a (by omega),
    ofNat_eq b (by omega), ofNat_eq c (by omega)]

theorem encode_quadruple {a b c d : UInt8} (lead : Lead.of a = .four)
    (second : secondOfFour a b = true) (third : isTail c = true) (fourth : isTail d = true) :
    String.utf8EncodeChar (quadruple a b c d) = [a, b, c, d] := by
  rw [lead_four_iff] at lead
  rw [secondOfFour_iff] at second
  rw [isTail_iff] at third fourth
  have code : (quadruple a b c d).val.toNat = a.toNat % 0x08 * 0x40000 +
      b.toNat % 0x40 * 0x1000 + c.toNat % 0x40 * 0x40 + d.toNat % 0x40 :=
    toNat_ofNat (by unfold low Nat.isValidChar; omega)
  simp only [String.utf8EncodeChar, code]
  rw [if_neg (by omega), if_neg (by omega), if_neg (by omega), ofNat_eq a (by omega),
    ofNat_eq b (by omega), ofNat_eq c (by omega), ofNat_eq d (by omega)]

inductive Sequence (c : Char) : List UInt8 → Prop where
  | one (a : UInt8) (lead : Lead.of a = .one) (same : c = Char.ofNat a.toNat) : Sequence c [a]
  | two (a b : UInt8) (lead : Lead.of a = .two) (second : isTail b = true)
      (same : c = pair a b) : Sequence c [a, b]
  | three (a b d : UInt8) (lead : Lead.of a = .three) (second : secondOfThree a b = true)
      (third : isTail d = true) (same : c = triple a b d) : Sequence c [a, b, d]
  | four (a b d e : UInt8) (lead : Lead.of a = .four) (second : secondOfFour a b = true)
      (third : isTail d = true) (fourth : isTail e = true) (same : c = quadruple a b d e) :
      Sequence c [a, b, d, e]

theorem sequence_encodeChar (c : Char) : Sequence c (String.utf8EncodeChar c) := by
  have valid : c.val.toNat.isValidChar := c.valid
  unfold Nat.isValidChar at valid
  have code (n : Nat) (same : n = c.val.toNat) : c = Char.ofNat n := by
    rw [same]
    exact (Char.ofNat_toNat c).symm
  have octet (n : Nat) (small : n < 256) : (UInt8.ofNat n).toNat = n :=
    UInt8.toNat_ofNat_of_lt' small
  rw [String.utf8EncodeChar]
  split_ifs
  · refine .one _ ?_ (code _ ?_)
    · rw [lead_one_iff, octet _ (by omega)]
      omega
    · exact octet _ (by omega)
  · refine .two _ _ ?_ ?_ (code _ ?_)
    · rw [lead_two_iff, octet _ (by omega)]
      omega
    · rw [isTail_iff, octet _ (by omega)]
      omega
    · rw [low, octet _ (by omega), octet _ (by omega)]
      omega
  · refine .three _ _ _ ?_ ?_ ?_ (code _ ?_)
    · rw [lead_three_iff, octet _ (by omega)]
      omega
    · rw [secondOfThree_iff, octet _ (by omega), octet _ (by omega)]
      omega
    · rw [isTail_iff, octet _ (by omega)]
      omega
    · rw [low, low, octet _ (by omega), octet _ (by omega), octet _ (by omega)]
      omega
  · refine .four _ _ _ _ ?_ ?_ ?_ ?_ (code _ ?_)
    · rw [lead_four_iff, octet _ (by omega)]
      omega
    · rw [secondOfFour_iff, octet _ (by omega), octet _ (by omega)]
      omega
    · rw [isTail_iff, octet _ (by omega)]
      omega
    · rw [isTail_iff, octet _ (by omega)]
      omega
    · rw [low, low, low, octet _ (by omega), octet _ (by omega), octet _ (by omega),
        octet _ (by omega)]
      omega

-- The octets of a character that takes more than one are all above those that stand alone.
theorem Sequence.ascii {c : Char} {octets : List UInt8} {octet : UInt8}
    (sequence : Sequence c octets) (found : octet ∈ octets) (ascii : octet.toNat < 0x80) :
    c = Char.ofNat octet.toNat := by
  cases sequence with
  | one a lead same =>
      rw [List.mem_singleton.mp found]
      exact same
  | two a b lead second same =>
      rw [lead_two_iff] at lead
      rw [isTail_iff] at second
      simp only [List.mem_cons, List.not_mem_nil, or_false] at found
      rcases found with rfl | rfl <;> omega
  | three a b d lead second third same =>
      rw [lead_three_iff] at lead
      rw [secondOfThree_iff] at second
      rw [isTail_iff] at third
      simp only [List.mem_cons, List.not_mem_nil, or_false] at found
      rcases found with rfl | rfl | rfl <;> omega
  | four a b d e lead second third fourth same =>
      rw [lead_four_iff] at lead
      rw [secondOfFour_iff] at second
      rw [isTail_iff] at third fourth
      simp only [List.mem_cons, List.not_mem_nil, or_false] at found
      rcases found with rfl | rfl | rfl | rfl <;> omega

/-! Texts -/

theorem bind_pure_cons (c : Char) (later : Except Fault (List Char)) :
    (do let chars ← later; return c :: chars) = later.map (c :: ·) := by
  cases later <;> rfl

theorem Sequence.decodes {c : Char} {octets : List UInt8} (sequence : Sequence c octets)
    (index : Nat) (rest : List UInt8) : decodeFrom index (octets ++ rest) =
      (decodeFrom (index + octets.length) rest).map (c :: ·) := by
  rw [← bind_pure_cons]
  cases sequence with
  | one a lead same =>
      simp only [List.cons_append, List.nil_append, decodeFrom, lead, ← same]
      rfl
  | two a b lead second same =>
      simp only [List.cons_append, List.nil_append, decodeFrom, lead, second, ↓reduceIte, ← same]
      rfl
  | three a b d lead second third same =>
      simp only [List.cons_append, List.nil_append, decodeFrom, lead, second, third,
        Bool.not_true, Bool.false_eq_true, ↓reduceIte, ← same]
      rfl
  | four a b d e lead second third fourth same =>
      simp only [List.cons_append, List.nil_append, decodeFrom, lead, second, third, fourth,
        Bool.not_true, Bool.false_eq_true, ↓reduceIte, ← same]
      rfl

theorem decodeFrom_encode (index : Nat) (chars : List Char) :
    decodeFrom index (chars.flatMap String.utf8EncodeChar) = .ok chars := by
  induction chars generalizing index with
  | nil => rfl
  | cons c rest ih =>
      rw [List.flatMap_cons, (sequence_encodeChar c).decodes, ih]
      rfl

/-- What is encoded decodes to what it was. -/
theorem decode_encode (text : String) : decode (encode text) = .ok text := by
  rw [decode, encode, decodeFrom_encode, Except.map, String.ofList_toList]

theorem of_bind_pure_cons {c : Char} {later : Except Fault (List Char)} {chars : List Char}
    (decoded : (do let rest ← later; return c :: rest) = .ok chars) :
    ∃ rest, later = .ok rest ∧ chars = c :: rest := by
  rw [bind_pure_cons] at decoded
  cases later with
  | error fault => contradiction
  | ok rest => exact ⟨rest, rfl, (Except.ok.inj decoded).symm⟩

theorem encode_decodeFrom {index : Nat} {octets : List UInt8} {chars : List Char}
    (decoded : decodeFrom index octets = .ok chars) :
    chars.flatMap String.utf8EncodeChar = octets := by
  fun_induction decodeFrom index octets generalizing chars with
  | case1 =>
      cases decoded
      rfl
  | case2 index a rest lead ih =>
      obtain ⟨later, tail, rfl⟩ := of_bind_pure_cons decoded
      rw [List.flatMap_cons, encode_single lead, ih tail]
      rfl
  | case3 index a b rest lead second ih =>
      obtain ⟨later, tail, rfl⟩ := of_bind_pure_cons decoded
      rw [List.flatMap_cons, encode_pair lead second, ih tail]
      rfl
  | case6 index a b c rest lead second third ih =>
      obtain ⟨later, tail, rfl⟩ := of_bind_pure_cons decoded
      rw [List.flatMap_cons, encode_triple lead (by simpa using second) third, ih tail]
      rfl
  | case11 index a b c d rest lead second third fourth ih =>
      obtain ⟨later, tail, rfl⟩ := of_bind_pure_cons decoded
      rw [List.flatMap_cons, encode_quadruple lead (by simpa using second) (by simpa using third)
        fourth, ih tail]
      rfl
  | _ => contradiction

/-- What decodes is the encoding of the text that it decodes to. -/
theorem encode_of_decode {octets : List UInt8} {text : String}
    (decoded : decode octets = .ok text) : encode text = octets := by
  unfold decode at decoded
  cases found : decodeFrom 0 octets with
  | error fault =>
      rw [found] at decoded
      contradiction
  | ok chars =>
      rw [found] at decoded
      cases decoded
      rw [encode, String.toList_ofList, encode_decodeFrom found]

theorem mem_encode_ascii {octet : UInt8} (ascii : octet.toNat < 0x80) (text : String) :
    octet ∈ encode text ↔ Char.ofNat octet.toNat ∈ text.toList := by
  rw [encode, List.mem_flatMap]
  constructor
  · rintro ⟨c, listed, found⟩
    exact (sequence_encodeChar c).ascii found ascii ▸ listed
  · intro listed
    exact ⟨_, listed, by simp [encode_single ((lead_one_iff octet).mpr ascii)]⟩

end ChatRooms.Text.Utf8
