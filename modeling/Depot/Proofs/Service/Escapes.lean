import Depot.Proofs.Text.Encoded
import Depot.Service.Target

/-!
# Escapes

A percent sign before two hexadecimal digits is read as one byte.  A text without such an escape
is read as it stands; one with an escape is read as something shorter, so never as itself.  All
bytes of a character past ASCII are out of the range of the sign and of the digits, so escapes
may be looked for in the characters of a text or in its bytes.
-/

set_option autoImplicit false

namespace Depot.Service

/-- So many hexadecimal digits come first. -/
def startsHex : Nat → List Char → Bool
  | 0, _ => true
  | _ + 1, [] => false
  | n + 1, c :: cs => (Text.hexValue? c).isSome && startsHex n cs

/-- Somewhere two hexadecimal digits follow a percent sign. -/
def hasEscape : List Char → Bool
  | [] => false
  | c :: cs => c == '%' && startsHex 2 cs || hasEscape cs

theorem hasEscape_of_notMem {cs : List Char} (absent : '%' ∉ cs) : hasEscape cs = false := by
  induction cs with
  | nil => rfl
  | cons c cs ih =>
    simp only [List.mem_cons, not_or] at absent
    simp [hasEscape, Ne.symm absent.1, ih absent.2]

/-! ## In bytes -/

/-- Bytes shown as the characters of their numbers. -/
def shown (bytes : List UInt8) : List Char := bytes.map fun b => Char.ofNat b.toNat

theorem shown_percent : ∀ n, n < 256 → (Char.ofNat n == '%') = (UInt8.ofNat n == 0x25) := by
  decide +kernel

theorem eq_percent (b : UInt8) : (Char.ofNat b.toNat == '%') = (b == 0x25) := by
  rw [shown_percent b.toNat b.toNat_lt, UInt8.ofNat_toNat]

theorem decodePercent_escape {a b c : UInt8} {rest : List UInt8} (sign : (a == 0x25) = true)
    (digits : startsHex 2 (shown (b :: c :: rest)) = true) :
    ∃ byte, decodePercent (a :: b :: c :: rest) = byte :: decodePercent rest := by
  simp only [shown, List.map_cons, startsHex, Bool.and_true, Bool.and_eq_true,
    Option.isSome_iff_exists] at digits
  obtain ⟨⟨high, first⟩, low, second⟩ := digits
  refine ⟨UInt8.ofNat (16 * high + low), ?_⟩
  rw [decodePercent, sign, first, second]

theorem decodePercent_plain {a : UInt8} {rest : List UInt8}
    (plain : (a == 0x25 && startsHex 2 (shown rest)) = false) :
    decodePercent (a :: rest) = a :: decodePercent rest := by
  match rest with
  | [] => rfl
  | [b] => rfl
  | b :: c :: others =>
    rw [decodePercent]
    split
    · rename_i sign first second
      simp [shown, startsHex, sign, first, second] at plain
    · rfl

theorem length_decodePercent_le (bytes : List UInt8) :
    (decodePercent bytes).length ≤ bytes.length := by
  fun_induction decodePercent bytes with
  | case1 => exact Nat.le_refl _
  | case2 a => exact Nat.le_refl _
  | case3 a b => exact Nat.le_refl _
  | case4 a b c rest high low sign first second ih =>
    simp only [List.length_cons]
    omega
  | case5 a b c rest other ih =>
    simp only [List.length_cons] at ih ⊢
    omega

theorem decodePercent_of_hasEscape_false {bytes : List UInt8}
    (plain : hasEscape (shown bytes) = false) : decodePercent bytes = bytes := by
  induction bytes with
  | nil => rfl
  | cons a rest ih =>
    simp only [shown, List.map_cons, hasEscape, Bool.or_eq_false_iff, eq_percent] at plain
    rw [decodePercent_plain plain.1, ih plain.2]

theorem hasEscape_false_of_length {bytes : List UInt8}
    (long : bytes.length ≤ (decodePercent bytes).length) : hasEscape (shown bytes) = false := by
  induction bytes with
  | nil => rfl
  | cons a rest ih =>
    simp only [shown, List.map_cons, hasEscape, Bool.or_eq_false_iff, eq_percent]
    by_cases escape : (a == 0x25 && startsHex 2 (shown rest)) = true
    · match rest with
      | [] => simp [shown, startsHex] at escape
      | [b] => simp [shown, startsHex] at escape
      | b :: c :: others =>
        -- three bytes are read as one, and the others do not grow
        rw [Bool.and_eq_true] at escape
        obtain ⟨byte, read⟩ := decodePercent_escape escape.1 escape.2
        have shorter := length_decodePercent_le others
        rw [read] at long
        simp only [List.length_cons] at long
        omega
    · rw [decodePercent_plain (Bool.eq_false_iff.2 escape)] at long
      refine ⟨Bool.eq_false_iff.2 escape, ih ?_⟩
      simpa using long

/-! ## In characters -/

def Inert (c : Char) : Prop := (c == '%') = false ∧ Text.hexValue? c = none

theorem inert_of_le {c : Char} (high : 128 ≤ c.toNat) : Inert c := by
  have past (d : Char) (low : d.toNat < 128) : ¬ c ≤ d := by
    intro below
    have : c.toNat ≤ d.toNat := below
    omega
  constructor
  · rw [beq_eq_false_iff_ne]
    rintro rfl
    exact absurd high (by decide)
  · rw [Text.hexValue?, if_neg fun range => past '9' (by decide) range.2,
      if_neg fun range => past 'f' (by decide) range.2,
      if_neg fun range => past 'F' (by decide) range.2]

theorem hasEscape_inert {part : List Char} (inert : ∀ c ∈ part, Inert c) (rest : List Char) :
    hasEscape (part ++ rest) = hasEscape rest := by
  induction part with
  | nil => rfl
  | cons c part ih =>
    rw [List.cons_append, hasEscape, (inert c (.head _)).1,
      ih fun other member => inert other (.tail _ member)]
    rfl

theorem high_utf8EncodeChar {c : Char} (high : 128 ≤ c.toNat) :
    ∀ b ∈ String.utf8EncodeChar c, 128 ≤ b.toNat := by
  have past : ¬ c.val.toNat ≤ 127 := Nat.not_le.2 high
  intro b member
  unfold String.utf8EncodeChar at member
  simp only [past, if_false] at member
  split_ifs at member <;> simp only [List.mem_cons, List.not_mem_nil, or_false] at member
  · rcases member with rfl | rfl <;> simp only [UInt8.toNat_ofNat'] <;> omega
  · rcases member with rfl | rfl | rfl <;> simp only [UInt8.toNat_ofNat'] <;> omega
  · rcases member with rfl | rfl | rfl | rfl <;> simp only [UInt8.toNat_ofNat'] <;> omega

theorem toNat_shown (b : UInt8) : (Char.ofNat b.toNat).toNat = b.toNat := by
  have valid : b.toNat.isValidChar := .inl (Nat.lt_trans b.toNat_lt (by decide))
  rw [Char.ofNat, dif_pos valid]
  rfl

theorem shown_utf8EncodeChar (c : Char) :
    shown (String.utf8EncodeChar c) = [c] ∨
      Inert c ∧ ∃ first rest, shown (String.utf8EncodeChar c) = first :: rest ∧
        ∀ d ∈ first :: rest, Inert d := by
  by_cases high : 128 ≤ c.toNat
  · refine .inr ⟨inert_of_le high, ?_⟩
    cases bytes : String.utf8EncodeChar c with
    | nil => exact absurd bytes String.utf8EncodeChar_ne_nil
    | cons b others =>
      refine ⟨_, shown others, rfl, fun d member => ?_⟩
      obtain ⟨byte, there, rfl⟩ := List.mem_map.1 (show d ∈ shown (b :: others) from member)
      apply inert_of_le
      rw [toNat_shown]
      exact high_utf8EncodeChar high byte (bytes ▸ there)
  · have low : c.val.toNat ≤ 127 := by
      have : c.val.toNat = c.toNat := rfl
      omega
    have single : String.utf8EncodeChar c = [UInt8.ofNat c.toNat] := by
      unfold String.utf8EncodeChar
      exact if_pos low
    refine .inl ?_
    rw [single, shown, List.map_singleton, UInt8.toNat_ofNat', Nat.mod_eq_of_lt (by omega),
      Char.ofNat_toNat]

theorem startsHex_shown (count : Nat) (cs : List Char) :
    startsHex count (shown (cs.flatMap String.utf8EncodeChar)) = startsHex count cs := by
  induction count generalizing cs with
  | zero => rfl
  | succ n ih =>
    cases cs with
    | nil => rfl
    | cons c cs =>
      have joined : shown ((c :: cs).flatMap String.utf8EncodeChar) =
          shown (String.utf8EncodeChar c) ++ shown (cs.flatMap String.utf8EncodeChar) := by
        simp [shown]
      rw [joined]
      rcases shown_utf8EncodeChar c with single | ⟨inert, first, rest, bytes, all⟩
      · rw [single, List.singleton_append, startsHex, ih, startsHex]
      · -- neither the character nor its first byte is a digit
        rw [bytes, List.cons_append, startsHex, startsHex, (all first (.head _)).2, inert.2]
        rfl

theorem hasEscape_shown (cs : List Char) :
    hasEscape (shown (cs.flatMap String.utf8EncodeChar)) = hasEscape cs := by
  induction cs with
  | nil => rfl
  | cons c cs ih =>
    have joined : shown ((c :: cs).flatMap String.utf8EncodeChar) =
        shown (String.utf8EncodeChar c) ++ shown (cs.flatMap String.utf8EncodeChar) := by
      simp [shown]
    rw [joined]
    rcases shown_utf8EncodeChar c with single | ⟨inert, first, rest, bytes, all⟩
    · rw [single, List.singleton_append, hasEscape, startsHex_shown, ih, hasEscape]
    · rw [bytes, hasEscape_inert all, ih, hasEscape, inert.1]
      rfl

/-! ## Parts of a path -/

theorem decodedBytes_of_hasEscape_false {s : String} (plain : hasEscape s.toList = false) :
    decodedBytes s = s.toUTF8 := by
  rw [decodedBytes, decodePercent_of_hasEscape_false, Text.toList_eq]
  rw [Text.toList_toUTF8, hasEscape_shown, plain]

theorem decodePart?_plain {s : String} (plain : hasEscape s.toList = false) :
    decodePart? s = some s := by
  rw [decodePart?, decodedBytes_of_hasEscape_false plain, Text.ofUtf8?_toUTF8]

/-- A text is not read as a longer one, and as one of its own length only where it holds no
escape. -/
theorem decodePart?_size {s t : String} (read : decodePart? s = some t) :
    t.utf8ByteSize ≤ s.utf8ByteSize ∧
      (s.utf8ByteSize ≤ t.utf8ByteSize → hasEscape s.toList = false) := by
  have decoded : t.utf8ByteSize = (decodePercent s.toUTF8.toList).length := by
    rw [decodePart?, Text.ofUtf8?, String.fromUTF8?] at read
    split_ifs at read with valid
    cases read
    rfl
  have whole : s.toUTF8.toList.length = s.utf8ByteSize := by
    rw [Text.toList_eq]
    rfl
  rw [decoded, ← whole]
  refine ⟨length_decodePercent_le _, fun long => ?_⟩
  rw [← hasEscape_shown, ← Text.toList_toUTF8]
  exact hasEscape_false_of_length long

/-! ## Fields of a query -/

theorem decodeField_plain {cs : List Char} (noPlus : '+' ∉ cs) (noPercent : '%' ∉ cs) :
    decodeField cs = String.ofList cs := by
  have same : (cs.map fun c => if c = '+' then ' ' else c) = cs := by
    have kept : ∀ c ∈ cs, (if c = '+' then ' ' else c) = id c := by
      intro c member
      rw [if_neg, id]
      rintro rfl
      exact noPlus member
    rw [List.map_congr_left kept, List.map_id]
  rw [decodeField, same, decodedBytes_of_hasEscape_false, Text.ofUtf8Lossy, Text.ofUtf8?_toUTF8]
  rw [String.toList_ofList, hasEscape_of_notMem noPercent]

end Depot.Service
