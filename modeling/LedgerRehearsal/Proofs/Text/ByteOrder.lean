import Mathlib.Order.Defs.LinearOrder

/-! The order of texts. Texts are compared character by character, which is the order of their bytes
in UTF-8: a greater character has greater bytes from the first one on in which the two differ, and
neither begins like the other. -/
namespace LedgerRehearsal.Text

/-- The bytes of a text in UTF-8. -/
def bytes (text : String) : List UInt8 := text.toUTF8.data.toList

theorem bytes_eq_flatMap (text : String) :
    bytes text = text.toList.flatMap String.utf8EncodeChar := by
  rw [bytes,String.toUTF8,← String.utf8Encode_toList,List.utf8Encode,List.data_toByteArray]

/-- A greater character has greater bytes, whatever stands behind the two. -/
theorem encode_lt {c d : Char} (before : c < d) (front back : List UInt8) :
    String.utf8EncodeChar c ++ front < String.utf8EncodeChar d ++ back := by
  have less : c.val.toNat < d.val.toNat := before
  have last : d.val.toNat < 1114112 := by
    have valid := d.valid
    simp only [UInt32.isValidChar,Nat.isValidChar] at valid
    omega
  unfold String.utf8EncodeChar
  dsimp only
  generalize c.val.toNat = m at *
  generalize d.val.toNat = n at *
  -- each byte but the first holds six bits, so the bytes are the digits to the base 64
  have third (k : Nat) : k / 4096 = k / 64 / 64 := by omega
  have fourth (k : Nat) : k / 262144 = k / 64 / 64 / 64 := by omega
  simp only [third,fourth]
  repeat' split
  all_goals first
    | omega
    | simp only [List.cons_append,List.nil_append,List.cons_lt_cons_iff,← UInt8.toNat_inj,
        UInt8.lt_iff_toNat_lt,UInt8.toNat_ofNat']
      omega

theorem flatMap_encode_lt {first second : List Char} (before : first < second) :
    first.flatMap String.utf8EncodeChar < second.flatMap String.utf8EncodeChar := by
  induction before with
  | @nil d second =>
    obtain ⟨byte,bytes,written⟩ :=
      List.exists_cons_of_ne_nil (String.utf8EncodeChar_ne_nil (c := d))
    simp [written]
  | rel less => exact encode_lt less _ _
  | cons _ ih => exact List.append_left_lt ih

/-- The order of texts is that of their bytes. -/
theorem lt_iff_bytes_lt {first second : String} : first < second ↔ bytes first < bytes second := by
  rw [String.lt_iff,bytes_eq_flatMap,bytes_eq_flatMap]
  refine ⟨flatMap_encode_lt,fun before => ?_⟩
  rcases Std.lt_trichotomy first.toList second.toList with less | same | greater
  · exact less
  · exact absurd (same ▸ before) (List.lt_irrefl _)
  · exact absurd before (List.lt_asymm (flatMap_encode_lt greater))

example : bytes "z" < bytes "é" ∧ bytes "\uffff" < bytes "😀" := by decide +kernel

end LedgerRehearsal.Text
