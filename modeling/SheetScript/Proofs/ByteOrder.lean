import Mathlib

/-!
# The order of texts as bytes

Texts are ordered by the code points of their characters. That is the order of their bytes in UTF-8, the
dictionary order of numbers below 256: a character with a greater code point has more bytes and so a
greater first one, or as many bytes, which are the digits of the code point in base 64.

- `utf8`: the bytes of a text.
- `encode_append_lt`: the first character in which two texts differ decides on the order of their bytes.
- `utf8_lt_iff`, `utf8_le_iff`: texts and their bytes are in the same order.
-/

namespace SheetScript.Text

/-- The bytes of a text in UTF-8. -/
def utf8 (s : String) : List UInt8 :=
  s.toUTF8.data.toList

theorem utf8_eq (s : String) : utf8 s = s.toList.flatMap String.utf8EncodeChar := by
  rw [utf8, String.toUTF8, ← String.utf8Encode_toList, List.utf8Encode, List.data_toByteArray]

/-- Of two characters the smaller one has the smaller bytes, whatever comes after them. -/
theorem encode_append_lt {c d : Char} (h : c < d) (xs ys : List UInt8) :
    String.utf8EncodeChar c ++ xs < String.utf8EncodeChar d ++ ys := by
  have hlt : c.val.toNat < d.val.toNat := h
  have hmax : d.val.toNat ≤ 1114111 := d.toNat_le_max
  simp only [String.utf8EncodeChar]
  generalize c.val.toNat = m at hlt
  generalize d.val.toNat = n at hlt hmax
  -- by the numbers of bytes of the two: as they grow, the first bytes lie in ever higher ranges
  split_ifs <;>
    simp (disch := omega) only [List.cons_append, List.nil_append, List.cons_lt_cons_iff,
      UInt8.lt_iff_toNat_lt, ← UInt8.toNat_inj, UInt8.toNat_ofNat', Nat.reducePow,
      Nat.mod_eq_of_lt] <;>
    omega

/-- The first difference of two texts decides between their bytes as well. -/
theorem flatMap_encode_lt {cs ds : List Char} (h : cs < ds) :
    cs.flatMap String.utf8EncodeChar < ds.flatMap String.utf8EncodeChar := by
  induction cs generalizing ds with
  | nil =>
    cases ds with
    | nil => exact absurd h (List.lt_irrefl [])
    | cons d ds =>
      obtain ⟨b, bs, hbytes⟩ := List.exists_cons_of_ne_nil (String.utf8EncodeChar_ne_nil (c := d))
      rw [List.flatMap_cons, hbytes]
      exact List.nil_lt_cons _ _
  | cons c cs ih =>
    cases ds with
    | nil => exact absurd h (List.not_lt_nil _)
    | cons d ds =>
      rw [List.flatMap_cons, List.flatMap_cons]
      rcases List.cons_lt_cons_iff.mp h with hlt | ⟨rfl, hlt⟩
      · exact encode_append_lt hlt _ _
      · exact List.append_left_lt (ih hlt)

variable {s t : String}

theorem utf8_lt_of_lt (h : s < t) : utf8 s < utf8 t := by
  rw [utf8_eq, utf8_eq]
  exact flatMap_encode_lt (String.lt_iff.mp h)

/-- Texts are in the order of their bytes. -/
theorem utf8_lt_iff : utf8 s < utf8 t ↔ s < t := by
  refine ⟨fun h => ?_, utf8_lt_of_lt⟩
  rcases lt_trichotomy s t with hlt | rfl | hgt
  · exact hlt
  · exact absurd h (List.lt_irrefl _)
  · exact absurd (utf8_lt_of_lt hgt) (List.lt_asymm h)

/-- Texts are in the order of their bytes. -/
theorem utf8_le_iff : utf8 s ≤ utf8 t ↔ s ≤ t := by
  rw [← not_lt, ← utf8_lt_iff]
  rfl

end SheetScript.Text
