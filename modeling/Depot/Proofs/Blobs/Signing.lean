import Depot.Blobs.Store
import Depot.Proofs.Text.Decimal
import Depot.Proofs.Text.Encoded
import Depot.Proofs.Text.Pieces

/-!
# Signatures of addresses

The text that is digested tells the path and the second apart, since the second comes last and
no number holds a colon, so two of them are signed alike only where the digest collides.
Comparing all bytes of two signatures tells whether they are the same.
-/

set_option autoImplicit false

namespace Depot.Digests.Sha256

def Collide (first second : List UInt8) : Prop := first ≠ second ∧ digest first = digest second

end Depot.Digests.Sha256

namespace Depot.Blobs

open Digests

/-! ## Comparing bytes -/

theorem foldl_differing (pairs : List (UInt8 × UInt8)) (sofar : UInt8) :
    pairs.foldl (fun differing pair => differing ||| (pair.1 ^^^ pair.2)) sofar = 0 ↔
      sofar = 0 ∧ ∀ pair ∈ pairs, pair.1 = pair.2 := by
  induction pairs generalizing sofar with
  | nil => simp
  | cons pair rest ih =>
    rw [List.foldl_cons, ih]
    simp [and_assoc]

theorem sameBytes_iff (expected given : List UInt8) :
    sameBytes expected given = true ↔ expected = given := by
  rw [sameBytes, Bool.and_eq_true, beq_iff_eq, beq_iff_eq, foldl_differing]
  constructor
  · rintro ⟨length, -, same⟩
    apply List.ext_getElem length
    intro i first second
    have inside : i < (expected.zip given).length := by
      rw [List.length_zip]
      omega
    have here := same _ (List.getElem_mem inside)
    rwa [List.getElem_zip] at here
  · intro same
    subst same
    refine ⟨rfl, rfl, ?_⟩
    intro pair member
    obtain ⟨i, inside, here⟩ := List.getElem_of_mem member
    rw [← here, List.getElem_zip]

/-! ## Messages -/

namespace AddressBook

variable (book : AddressBook)

def message (path : String) (expires : Int) : List UInt8 :=
  (book.signedText path expires).toUTF8.toList

theorem noColon_decimalInt (z : Int) : ':' ∉ (Text.decimalInt z).toList := by
  intro member
  rcases Text.mem_decimalInt member with sign | isDigit
  · exact absurd sign (by decide)
  · exact absurd isDigit (by decide)

variable {book}

theorem signedText_inj {path other : String} {expires later : Int} :
    book.signedText path expires = book.signedText other later ↔
      path = other ∧ expires = later := by
  constructor
  · intro same
    have shape (p : String) (z : Int) : (book.signedText p z).toList =
        (book.secret.toList ++ ':' :: p.toList) ++ ':' :: (Text.decimalInt z).toList := by
      simp [signedText]
    have lists := congrArg String.toList same
    rw [shape, shape] at lists
    obtain ⟨front, number⟩ :=
      Text.append_mark_inj (noColon_decimalInt expires) (noColon_decimalInt later) lists
    rw [List.append_right_inj, List.cons.injEq] at front
    exact ⟨String.toList_inj.1 front.2, Text.decimalInt_inj.1 (String.toList_inj.1 number)⟩
  · rintro ⟨rfl, rfl⟩
    rfl

theorem message_inj {path other : String} {expires later : Int} :
    book.message path expires = book.message other later ↔ path = other ∧ expires = later := by
  rw [message, message, Text.toList_inj, Text.toUTF8_inj, signedText_inj]

/-! ## Signatures -/

theorem signature_eq (path : String) (expires : Int) :
    book.signature path expires =
      String.ofList ((Sha256.digest (book.message path expires)).flatMap Text.hexPair) := rfl

/-- Where the digest does not collide, a signature is the one of a single path and second. -/
theorem signature_inj {path other : String} {expires later : Int}
    (apart : ¬ Sha256.Collide (book.message path expires) (book.message other later)) :
    book.signature path expires = book.signature other later ↔
      path = other ∧ expires = later := by
  constructor
  · intro same
    rw [signature_eq, signature_eq, String.ofList_inj] at same
    have digests := Text.flatMap_hexPair_injective same
    by_contra different
    apply apart
    exact ⟨fun alike => different (message_inj.1 alike), digests⟩
  · rintro ⟨rfl, rfl⟩
    rfl

theorem verifies_iff {now : Instant} {path : String} {expires : Int} {given : String} :
    book.verifies now path expires given = true ↔
      now.seconds ≤ expires ∧ given = book.signature path expires := by
  rw [verifies, Bool.and_eq_true, decide_eq_true_eq, sameBytes_iff, Text.toList_inj, Text.toUTF8_inj,
    eq_comm (b := given)]

/-- A signature verifies for what it was issued for and for nothing else, until the end. -/
theorem verifies_signature {now : Instant} {path other : String} {expires later : Int}
    (apart : ¬ Sha256.Collide (book.message other later) (book.message path expires)) :
    book.verifies now other later (book.signature path expires) = true ↔
      other = path ∧ later = expires ∧ now.seconds ≤ expires := by
  rw [verifies_iff, eq_comm (a := book.signature path expires), signature_inj apart]
  constructor
  · rintro ⟨early, rfl, rfl⟩
    exact ⟨rfl, rfl, early⟩
  · rintro ⟨rfl, rfl, early⟩
    exact ⟨early, rfl, rfl⟩

end AddressBook

end Depot.Blobs
