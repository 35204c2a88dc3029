/-!
# The order of encoded texts

Texts are in order by the code points of their characters. Main statement: that is the order of the
bytes of their encoded forms, since encoding keeps the order of characters and no encoded character
is the start of another.
-/

namespace GraphGateway.Text

/-- The bytes of an encoded text. -/
def bytes (text : String) : List UInt8 := text.toByteArray.data.toList

/-- A text is encoded character by character. -/
theorem bytes_eq_flatMap (text : String) :
    bytes text = text.toList.flatMap String.utf8EncodeChar := by
  rw [bytes, ← String.utf8Encode_toList, List.utf8Encode, List.data_toByteArray]

/-- The code point of a character has at most 21 bits. -/
theorem toNat_lt_of_char (c : Char) : c.val.toNat < 0x110000 := by
  have hvalid : c.val.toNat < 0xd800 ∨ 0xdfff < c.val.toNat ∧ c.val.toNat < 0x110000 := c.valid
  omega

/-- A character has one to four bytes, by the size of its code point: the code point itself, or its
digits to the base 64, each marked for its place. -/
theorem utf8EncodeChar_cases (c : Char) :
    (c.val.toNat ≤ 0x7f ∧ String.utf8EncodeChar c = [UInt8.ofNat c.val.toNat]) ∨
    (∃ x y, c.val.toNat = 64 * x + y ∧ 0x7f < c.val.toNat ∧ x < 32 ∧ y < 64 ∧
      String.utf8EncodeChar c = [UInt8.ofNat (x + 0xc0), UInt8.ofNat (y + 0x80)]) ∨
    (∃ x y z, c.val.toNat = 4096 * x + 64 * y + z ∧ 0x7ff < c.val.toNat ∧
      x < 16 ∧ y < 64 ∧ z < 64 ∧ String.utf8EncodeChar c =
        [UInt8.ofNat (x + 0xe0), UInt8.ofNat (y + 0x80), UInt8.ofNat (z + 0x80)]) ∨
    ∃ w x y z, c.val.toNat = 262144 * w + 4096 * x + 64 * y + z ∧ 0xffff < c.val.toNat ∧
      w < 8 ∧ x < 64 ∧ y < 64 ∧ z < 64 ∧ String.utf8EncodeChar c =
        [UInt8.ofNat (w + 0xf0), UInt8.ofNat (x + 0x80), UInt8.ofNat (y + 0x80),
          UInt8.ofNat (z + 0x80)] := by
  have hbound := toNat_lt_of_char c
  rw [String.utf8EncodeChar]
  generalize c.val.toNat = code at hbound
  split
  next hone => exact Or.inl ⟨hone, rfl⟩
  next hone =>
    split
    next htwo => exact Or.inr (Or.inl ⟨_, _, by omega, by omega, by omega, by omega, rfl⟩)
    next htwo =>
      refine Or.inr (Or.inr ?_)
      split
      next hthree => exact Or.inl ⟨_, _, _, by omega, by omega, by omega, by omega, by omega, rfl⟩
      next => exact Or.inr ⟨_, _, _, _, by omega, by omega, by omega, by omega, by omega, by omega, rfl⟩

/-- A lesser character has lesser bytes, whatever stands behind it. -/
theorem utf8EncodeChar_append_lt {c d : Char} (h : c < d) (behind other : List UInt8) :
    String.utf8EncodeChar c ++ behind < String.utf8EncodeChar d ++ other := by
  have hlt : c.val.toNat < d.val.toNat := h
  rcases utf8EncodeChar_cases c with ⟨hc, hbytes⟩ | ⟨x, y, hc, hfrom, hx, hy, hbytes⟩ |
      ⟨x, y, z, hc, hfrom, hx, hy, hz, hbytes⟩ | ⟨w, x, y, z, hc, hfrom, hw, hx, hy, hz, hbytes⟩ <;>
    rcases utf8EncodeChar_cases d with ⟨hd, hbytes'⟩ | ⟨x', y', hd, hfrom', hx', hy', hbytes'⟩ |
      ⟨x', y', z', hd, hfrom', hx', hy', hz', hbytes'⟩ |
      ⟨w', x', y', z', hd, hfrom', hw', hx', hy', hz', hbytes'⟩ <;>
    simp only [hbytes, hbytes', List.cons_append, List.nil_append, List.cons_lt_cons_iff,
      UInt8.lt_iff_toNat_lt, ← UInt8.toNat_inj, UInt8.toNat_ofNat'] <;>
    omega

/-- Bytes behind the same bytes keep their order. -/
theorem append_lt_append {first second : List UInt8} (h : first < second) (before : List UInt8) :
    before ++ first < before ++ second := by
  induction before with
  | nil => exact h
  | cons byte rest ih => exact List.cons_lt_cons_iff.mpr (Or.inr ⟨rfl, ih⟩)

/-- Lesser characters have lesser bytes. -/
theorem flatMap_utf8EncodeChar_lt {first second : List Char} (h : first < second) :
    first.flatMap String.utf8EncodeChar < second.flatMap String.utf8EncodeChar := by
  induction first generalizing second with
  | nil =>
    cases second with
    | nil => exact absurd h (List.lt_irrefl _)
    | cons d ds =>
      obtain ⟨byte, rest, hbytes⟩ := List.exists_cons_of_ne_nil (@String.utf8EncodeChar_ne_nil d)
      rw [List.flatMap_nil, List.flatMap_cons, hbytes]
      exact List.nil_lt_cons _ _
  | cons c cs ih =>
    cases second with
    | nil => exact absurd h (List.not_lt_nil _)
    | cons d ds =>
      rw [List.flatMap_cons, List.flatMap_cons]
      rcases List.cons_lt_cons_iff.mp h with hlt | ⟨rfl, hlt⟩
      · exact utf8EncodeChar_append_lt hlt _ _
      · exact append_lt_append (ih hlt) _

/-- Texts are in the order of their bytes. -/
theorem bytes_lt_iff {a b : String} : bytes a < bytes b ↔ a < b := by
  have hmono {a b : String} (h : a < b) : bytes a < bytes b := by
    rw [bytes_eq_flatMap, bytes_eq_flatMap]
    exact flatMap_utf8EncodeChar_lt (String.lt_iff.mp h)
  refine ⟨fun h => ?_, hmono⟩
  have hle : a ≤ b := String.not_lt.mp fun hgt => List.lt_asymm h (hmono hgt)
  refine String.not_le.mp fun hge => ?_
  rw [String.le_antisymm hle hge] at h
  exact List.lt_irrefl _ h

end GraphGateway.Text
