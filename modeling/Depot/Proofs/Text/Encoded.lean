import Depot.Text.Hex
import Depot.Text.Utf8
import Mathlib.Data.List.Basic

/-!
# Texts as bytes, bytes as digits

A text is told by its bytes, and bytes are told by their pairs of hexadecimal digits.
-/

set_option autoImplicit false

namespace Depot.Text

/-! ## Bytes of texts -/

theorem toList_loop (bytes : ByteArray) (i : Nat) (sofar : List UInt8) :
    ByteArray.toList.loop bytes i sofar = sofar.reverse ++ bytes.data.toList.drop i := by
  induction left : bytes.size - i generalizing i sofar with
  | zero =>
    have past : ¬ i < bytes.size := by omega
    rw [ByteArray.toList.loop, if_neg past, List.drop_of_length_le, List.append_nil]
    simpa using Nat.not_lt.1 past
  | succ n ih =>
    have within : i < bytes.size := by omega
    have here : i < bytes.data.toList.length := by simpa using within
    have read : bytes.get! i = bytes.data.toList[i] := by
      obtain ⟨data⟩ := bytes
      have inside : i < data.size := within
      rw [ByteArray.get!, getElem!_pos data i inside, Array.getElem_toList]
    rw [ByteArray.toList.loop, if_pos within, ih (i + 1) _ (by omega), List.reverse_cons,
      List.append_assoc, List.drop_eq_getElem_cons here, read]
    rfl

theorem toList_eq (bytes : ByteArray) : bytes.toList = bytes.data.toList := by
  rw [ByteArray.toList, toList_loop]
  rfl

theorem toList_inj {first second : ByteArray} : first.toList = second.toList ↔ first = second := by
  rw [toList_eq, toList_eq, Array.toList_inj]
  constructor
  · intro same
    exact ByteArray.ext same
  · intro same
    rw [same]

theorem toUTF8_inj {s t : String} : s.toUTF8 = t.toUTF8 ↔ s = t := by
  rw [String.toUTF8_eq_toByteArray, String.toUTF8_eq_toByteArray, String.toByteArray_inj]

theorem toList_toUTF8 (s : String) : s.toUTF8.toList = s.toList.flatMap String.utf8EncodeChar := by
  have read : s.toByteArray = s.toList.utf8Encode := by
    rw [← String.toByteArray_ofList, String.ofList_toList]
  rw [toList_eq, String.toUTF8_eq_toByteArray, read, List.utf8Encode, List.toList_data_toByteArray]

theorem ofUtf8?_toUTF8 (s : String) : ofUtf8? s.toUTF8 = some s := by
  rw [ofUtf8?, String.fromUTF8?, String.toUTF8_eq_toByteArray, dif_pos s.isValidUTF8]
  rfl

/-! ## Hexadecimal digits -/

theorem hexValue?_hexDigit : ∀ n, n < 16 → hexValue? (hexDigit n) = some n := by
  decide

theorem hexPair_injective : Function.Injective hexPair := by
  intro a b same
  have first := a.toNat_lt
  have second := b.toNat_lt
  simp only [hexPair, List.cons.injEq, and_true] at same
  have high := congrArg hexValue? same.1
  have low := congrArg hexValue? same.2
  rw [hexValue?_hexDigit _ (by omega), hexValue?_hexDigit _ (by omega), Option.some_inj] at high low
  apply UInt8.toNat_inj.1
  omega

theorem flatMap_hexPair_injective : Function.Injective (List.flatMap hexPair) := by
  intro first
  induction first with
  | nil =>
    intro second same
    cases second with
    | nil => rfl
    | cons b rest => simp [hexPair] at same
  | cons a rest ih =>
    intro second same
    cases second with
    | nil => simp [hexPair] at same
    | cons b others =>
      rw [List.flatMap_cons, List.flatMap_cons] at same
      obtain ⟨pair, later⟩ := List.append_inj same rfl
      rw [hexPair_injective pair, ih later]

end Depot.Text
