import Mathlib.Data.List.Lex

/-!
# The order of texts and of their bytes

Texts are compared by their characters, the first that differ deciding. The bytes of UTF-8 are made
so that comparing them comes to the same: a larger character is written with a larger byte where the
two spellings first differ, whether or not they have the same length.
-/

namespace NodeIdGen.Text

/-- The bytes of a text in UTF-8. -/
def utf8 (s : String) : List UInt8 :=
  s.toUTF8.data.toList

theorem utf8_eq_flatMap (s : String) : utf8 s = s.toList.flatMap String.utf8EncodeChar := by
  have bytes : s.toByteArray = s.toList.utf8Encode := by
    rw [← String.toByteArray_ofList, String.ofList_toList]
  show s.toByteArray.data.toList = _
  rw [bytes, List.utf8Encode]
  exact List.toList_data_toByteArray

/-- Of two bytes in front the smaller decides, and of equal ones what is behind them. -/
theorem lex_byte {m n : Nat} {as bs : List UInt8} (hn : n < 256) (hle : m ≤ n)
    (heq : m = n → List.Lex (· < ·) as bs) :
    List.Lex (· < ·) (UInt8.ofNat m :: as) (UInt8.ofNat n :: bs) := by
  rcases Nat.lt_or_eq_of_le hle with hlt | rfl
  · refine .rel (UInt8.lt_iff_toNat_lt.2 ?_)
    rwa [UInt8.toNat_ofNat_of_lt' (Nat.lt_of_le_of_lt hle hn), UInt8.toNat_ofNat_of_lt' hn]
  · exact .cons (heq rfl)

/-- A smaller character is written with a smaller byte where the spellings first differ, so that
what follows them does not matter. -/
theorem lex_utf8EncodeChar {c d : Char} (h : c < d) (as bs : List UInt8) :
    List.Lex (· < ·) (String.utf8EncodeChar c ++ as) (String.utf8EncodeChar d ++ bs) := by
  have hlt : c.val.toNat < d.val.toNat := h
  have hd : d.val.toNat < 0x110000 := by
    have := d.valid
    unfold UInt32.isValidChar Nat.isValidChar at this
    omega
  unfold String.utf8EncodeChar
  dsimp only
  generalize c.val.toNat = m at hlt
  generalize d.val.toNat = n at hlt hd
  -- spellings of different lengths differ in the first byte; those of one length are compared byte
  -- by byte, and a smaller character is never the longer one
  split
  · split
    · exact lex_byte (by omega) (by omega) (by omega)
    · split
      · exact lex_byte (by omega) (by omega) (by omega)
      · split <;> exact lex_byte (by omega) (by omega) (by omega)
  · split
    · split
      · omega
      · split
        · exact lex_byte (by omega) (by omega) fun _ =>
            lex_byte (by omega) (by omega) (by omega)
        · split <;> exact lex_byte (by omega) (by omega) (by omega)
    · split
      · split
        · omega
        · split
          · omega
          · split
            · exact lex_byte (by omega) (by omega) fun _ =>
                lex_byte (by omega) (by omega) fun _ =>
                  lex_byte (by omega) (by omega) (by omega)
            · exact lex_byte (by omega) (by omega) (by omega)
      · split
        · omega
        · split
          · omega
          · split
            · omega
            · exact lex_byte (by omega) (by omega) fun _ =>
                lex_byte (by omega) (by omega) fun _ =>
                  lex_byte (by omega) (by omega) fun _ =>
                    lex_byte (by omega) (by omega) (by omega)

theorem lex_utf8_of_lex {cs ds : List Char} (h : List.Lex (· < ·) cs ds) :
    List.Lex (· < ·) (cs.flatMap String.utf8EncodeChar) (ds.flatMap String.utf8EncodeChar) := by
  induction h with
  | @nil d ds =>
      obtain ⟨b, bs, hb⟩ := List.exists_cons_of_ne_nil (String.utf8EncodeChar_ne_nil (c := d))
      rw [List.flatMap_cons, hb]
      exact .nil
  | @rel c cs d ds h => exact lex_utf8EncodeChar h _ _
  | @cons c cs ds _ ih => exact List.Lex.append_left _ ih (String.utf8EncodeChar c)

theorem utf8_lt_of_lt {s t : String} (h : s < t) : utf8 s < utf8 t := by
  rw [utf8_eq_flatMap, utf8_eq_flatMap]
  exact lex_utf8_of_lex (String.lt_iff.1 h)

/-- Texts are in the order of their bytes. -/
theorem utf8_lt_iff {s t : String} : utf8 s < utf8 t ↔ s < t := by
  constructor
  · intro h
    by_contra hst
    have hts : ¬ t < s := fun hts => List.lt_asymm h (utf8_lt_of_lt hts)
    obtain rfl : s = t := String.le_antisymm (String.not_lt.1 hts) (String.not_lt.1 hst)
    exact List.lt_irrefl _ h
  · exact utf8_lt_of_lt

end NodeIdGen.Text
