import Mathlib.Data.List.Basic
import ImageVault.Text.Utf8

/-!
# The bytes of a text

Texts that differ are written with different bytes, and plain characters with one byte each.
-/

namespace ImageVault.Text

/-- The bytes that are left are put behind those before them. -/
theorem toListLoop_eq (bytes : ByteArray) (start : Nat) (before : Bytes) :
    ByteArray.toList.loop bytes start before =
      before.reverse ++ bytes.data.toList.drop start := by
  fun_induction ByteArray.toList.loop bytes start before with
  | case1 start before inside ih =>
    have present : start < bytes.data.toList.length := inside
    have byte : bytes.get! start = bytes.data.toList[start] :=
      getElem!_pos bytes.data start inside
    rw [ih, List.drop_eq_getElem_cons present, List.reverse_cons, List.append_assoc, byte]
    rfl
  | case2 start before outside =>
    have past : bytes.data.toList.length ≤ start := Nat.le_of_not_lt outside
    rw [List.drop_eq_nil_of_le past, List.append_nil]

theorem toList_injective : Function.Injective ByteArray.toList := by
  intro first second same
  simp only [ByteArray.toList, toListLoop_eq, List.reverse_nil, List.nil_append,
    List.drop_zero] at same
  exact ByteArray.ext (Array.toList_inj.mp same)

/-- The characters of a text can be told from its bytes. -/
theorem utf8_injective :
    Function.Injective fun text : List Char => (String.ofList text).toUTF8.toList := by
  intro first second same
  exact String.ofList_injective (String.toByteArray_inj.mp (toList_injective same))

theorem utf8EncodeChar_of_plain {c : Char} (plain : c.toNat < 128) :
    String.utf8EncodeChar c = [c.toUInt8] := by
  apply String.utf8EncodeChar_eq_singleton
  rw [Char.utf8Size_eq_one_iff, UInt32.le_iff_toNat_le]
  exact Nat.le_of_lt_succ plain

theorem toUtf8_of_plain {text : List Char} (plain : ∀ c ∈ text, c.toNat < 128) :
    toUtf8 text = text.map Char.toUInt8 := by
  have encoded : toUtf8 text = text.flatMap String.utf8EncodeChar := by
    simp [toUtf8, ByteArray.toList, toListLoop_eq, List.utf8Encode]
  rw [encoded, List.map_eq_flatMap]
  exact List.flatMap_congr fun c member => utf8EncodeChar_of_plain (plain c member)

end ImageVault.Text
