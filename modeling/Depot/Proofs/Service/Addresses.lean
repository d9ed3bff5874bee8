import Depot.Blobs.Address
import Depot.Proofs.Service.Escapes
import Depot.Proofs.Text.Decimal
import Depot.Proofs.Text.Pieces
import Depot.Service.Request
import Depot.Service.Resource

/-!
# Addresses of files

An address is put together from the path of a file as it stands; a request for it is cut at the
first question mark and at the first hash sign, and its escapes are decoded.
-/

set_option autoImplicit false

namespace Depot.Service

open Blobs

/-! ## Asking for an address -/

/-- What a client asks for at the host of an address. -/
def targetOf (url : String) : String :=
  String.ofList (((url.toList.dropWhile (· ≠ ':')).drop 3).dropWhile (· ≠ '/'))

/-- The base of the addresses is where contents are served, behind a scheme and a host. -/
def Mounted (book : AddressBook) : Prop :=
  ∃ scheme host : String, book.base = scheme ++ "://" ++ host ++ "/files" ∧
    ':' ∉ scheme.toList ∧ ∀ mark ∈ ['/', '?', '#'], mark ∉ host.toList

/-- A text that is read as it stands where it is the rest of an address. -/
structure Verbatim (text : String) : Prop where
  noQuestion : '?' ∉ text.toList
  noHash : '#' ∉ text.toList
  noEscape : hasEscape text.toList = false

theorem targetOf_mounted {book : AddressBook} (mounted : Mounted book) (tail : String) :
    targetOf (book.base ++ tail) = "/files" ++ tail := by
  obtain ⟨scheme, host, base, noColon, bare⟩ := mounted
  have joined : (book.base ++ tail).toList =
      scheme.toList ++ ':' :: '/' :: '/' :: (host.toList ++ '/' :: ("files" ++ tail).toList) := by
    simp [base, List.append_assoc]
  rw [targetOf, joined, Text.dropWhile_append_mark noColon]
  change String.ofList ((host.toList ++ '/' :: ("files" ++ tail).toList).dropWhile (· ≠ '/')) = _
  rw [Text.dropWhile_append_mark (bare '/' (by simp))]
  apply String.toList_inj.1
  simp

theorem targetOf_publicUrl {book : AddressBook} (mounted : Mounted book) (path : String) :
    targetOf (book.publicUrl path) = "/files/" ++ path := by
  rw [AddressBook.publicUrl, String.append_assoc, targetOf_mounted mounted]
  apply String.toList_inj.1
  simp

def signedFields (book : AddressBook) (path : String) (expires : Int) : String :=
  "expires=" ++ Text.decimalInt expires ++ "&signature=" ++ book.signature path expires

theorem targetOf_signedUrl {book : AddressBook} (mounted : Mounted book) (now : Instant)
    (path : String) (minutes : Nat) :
    targetOf (book.signedUrl now path minutes) = "/files/" ++ path ++ "?" ++
      signedFields book path (AddressBook.expiry now minutes) := by
  have joined : book.signedUrl now path minutes = book.base ++ ("/" ++ path ++ "?" ++
      signedFields book path (AddressBook.expiry now minutes)) := by
    apply String.toList_inj.1
    simp [AddressBook.signedUrl, AddressBook.publicUrl, signedFields]
  rw [joined, targetOf_mounted mounted]
  apply String.toList_inj.1
  simp

/-! ## Taking a target apart -/

theorem Target.path_ofText (text : String) :
    (Target.ofText text).path =
      String.ofList ((text.toList.takeWhile (· ≠ '#')).takeWhile (· ≠ '?')) := by
  rw [← Text.breakAt_fst, ← Text.breakAt_fst]
  rfl

theorem Target.ofText_path {path : String} (noHash : '#' ∉ path.toList)
    (noQuestion : '?' ∉ path.toList) : Target.ofText path = ⟨path, []⟩ := by
  unfold Target.ofText
  simp only [Text.breakAt_of_notMem noHash, Text.breakAt_of_notMem noQuestion,
    String.ofList_toList]
  rfl

theorem Target.ofText_fields {path fields : String}
    (noHash : '#' ∉ path.toList ∧ '#' ∉ fields.toList) (noQuestion : '?' ∉ path.toList) :
    Target.ofText (path ++ "?" ++ fields) = ⟨path, Query.ofText fields.toList⟩ := by
  have joined : (path ++ "?" ++ fields).toList = path.toList ++ '?' :: fields.toList := by simp
  have clear : '#' ∉ path.toList ++ '?' :: fields.toList := by simp [noHash]
  unfold Target.ofText
  simp only [joined, Text.breakAt_of_notMem clear, Text.breakAt_append noQuestion,
    String.ofList_toList]
  rfl

theorem Resource.ofPath_files {rest : String} (filled : rest ≠ "") :
    Resource.ofPath ("/files/" ++ rest) = some (.blob rest) := by
  have joined : ("/files/" ++ rest).toList = [] ++ '/' :: ("files".toList ++ '/' :: rest.toList) := by
    simp
  have cut : Text.segments ("/files/" ++ rest) = "" :: "files" :: Text.segments rest := by
    rw [Text.segments, joined, Text.cutAt_append (by simp), Text.cutAt_append (by decide)]
    simp [Text.segments]
  have whole : "/".intercalate (Text.segments rest) = rest := by
    apply String.toList_inj.1
    rw [String.toList_intercalate, Text.segments, List.map_map]
    have same : (String.toList ∘ String.ofList) = id := by
      funext cs
      exact String.toList_ofList
    rw [same, List.map_id]
    exact Text.intercalate_cutAt '/' rest.toList
  have some : rest.isEmpty = false := by simpa using filled
  rw [Resource.ofPath, cut]
  simp [whole, some]

/-! ## The fields of a signed address -/

/-- The characters that mean something in a query. -/
def queryMarks : List Char := ['#', '&', '=', '+', '%']

theorem bare_decimalInt (n : Int) : ∀ mark ∈ queryMarks, mark ∉ (Text.decimalInt n).toList := by
  intro mark listed member
  -- a minus sign or a digit
  rcases Text.mem_decimalInt member with rfl | isDigit
  · exact absurd listed (by decide)
  · have none : ∀ mark ∈ queryMarks, mark.isDigit = false := by simp [queryMarks]
    rw [none mark listed] at isDigit
    cases isDigit

theorem bare_signature (book : AddressBook) (path : String) (expires : Int) :
    ∀ mark ∈ queryMarks, mark ∉ (book.signature path expires).toList := by
  intro mark listed member
  rw [AddressBook.signature, String.toList_ofList, List.mem_flatMap] at member
  obtain ⟨byte, -, digit⟩ := member
  have none : ∀ n, n < 16 → Text.hexDigit n ∉ queryMarks := by decide
  have small := byte.toNat_lt
  simp only [Text.hexPair, List.mem_cons, List.not_mem_nil, or_false] at digit
  rcases digit with rfl | rfl
  · exact none _ (by omega) listed
  · exact none _ (by omega) listed

theorem Query.ofText_append {first : List Char} (absent : '&' ∉ first) (rest : List Char) :
    Query.ofText (first ++ '&' :: rest) = Query.ofText first ++ Query.ofText rest := by
  rw [ofText, ofText, ofText, Text.cutAt_append absent, Text.cutAt_of_notMem absent,
    ← List.singleton_append, List.filter_append, List.map_append]

theorem Query.ofText_field {name value : List Char} (bareName : ∀ mark ∈ queryMarks, mark ∉ name)
    (bareValue : ∀ mark ∈ queryMarks, mark ∉ value) :
    Query.ofText (name ++ '=' :: value) = [(String.ofList name, String.ofList value)] := by
  have single : Text.cutAt '&' (name ++ '=' :: value) = [name ++ '=' :: value] := by
    apply Text.cutAt_of_notMem
    simp [bareName '&' (by decide), bareValue '&' (by decide)]
  have filled : (name ++ '=' :: value).isEmpty = false := by simp
  rw [ofText, single, List.filter_cons_of_pos (by rw [filled]; rfl), List.filter_nil,
    List.map_singleton, Text.breakAt_append (bareName '=' (by decide))]
  dsimp only [Option.getD_some]
  rw [decodeField_plain (bareName '+' (by decide)) (bareName '%' (by decide)),
    decodeField_plain (bareValue '+' (by decide)) (bareValue '%' (by decide))]

theorem query_signedFields (book : AddressBook) (path : String) (expires : Int) :
    Query.ofText (signedFields book path expires).toList =
      [("expires", Text.decimalInt expires), ("signature", book.signature path expires)] := by
  have joined : (signedFields book path expires).toList =
      ("expires".toList ++ '=' :: (Text.decimalInt expires).toList) ++
        '&' :: ("signature".toList ++ '=' :: (book.signature path expires).toList) := by
    simp [signedFields, List.append_assoc]
  have apart : '&' ∉ "expires".toList ++ '=' :: (Text.decimalInt expires).toList := by
    simp [bare_decimalInt expires '&' (by decide)]
  rw [joined, Query.ofText_append apart,
    Query.ofText_field (by simp [queryMarks]) (bare_decimalInt expires),
    Query.ofText_field (by simp [queryMarks]) (bare_signature book path expires)]
  simp

/-- A second that a request can carry. -/
def Carried (second : Int) : Prop :=
  -(Text.maxInt64 + 1 : Int) ≤ second ∧ second ≤ Text.maxInt64

theorem ofQuery?_signedFields {expires : Int} (carried : Carried expires) (book : AddressBook)
    (path : String) :
    Signature.ofQuery? (Query.ofText (signedFields book path expires).toList) =
      some ⟨some expires, some (book.signature path expires)⟩ := by
  have read : int64? (Text.decimalInt expires) = some expires := by
    rw [int64?, Text.signed_decimalInt carried.1 carried.2]
    rfl
  rw [query_signedFields]
  simp [Signature.ofQuery?, Query.read?, Query.text?, read]

end Depot.Service
