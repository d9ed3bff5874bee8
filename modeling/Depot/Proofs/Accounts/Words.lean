import Depot.Proofs.Accounts.Slug

/-!
# Slugs as words

A slug is made in one pass that remembers no more than what it has written.  Pass by pass it is
the words of the text, which are its runs of letters and digits between underscores and blanks,
joined by single underscores.  Reading one more character changes no words, trimming takes none
away, and a text in the form of slugs is its words joined.
-/

set_option autoImplicit false

namespace Depot.Accounts

/-! ## Words -/

def isJoint (c : Char) : Bool := Text.isBlank c || c == '_'

def isRead (c : Char) : Bool := isNameChar c || Text.isBlank c

/-- The words of small letters without accents: whatever is not read is dropped, the rest is cut at
the joints, and empty pieces are left out. -/
def words (cs : List Char) : List (List Char) :=
  ((cs.filter isRead).splitOnP isJoint).filter (!·.isEmpty)

/-- The slug of a text, made pass by pass. -/
def joinedWords (s : String) : String :=
  String.ofList (['_'].intercalate (words ((s.toList.flatMap Text.lower).map foldAccent)))

variable {c : Char} {cs joints before after : List Char}

theorem isRead_of_isJoint (joint : isJoint c = true) : isRead c = true := by
  rw [isJoint, Bool.or_eq_true, beq_iff_eq] at joint
  rcases joint with blank | rfl
  · rw [isRead, blank, Bool.or_true]
  · decide

@[simp] theorem words_nil : words [] = [] := rfl

theorem words_append_joint (joint : isJoint c = true) (before after : List Char) :
    words (before ++ c :: after) = words before ++ words after := by
  rw [words, List.filter_append, List.filter_cons_of_pos (isRead_of_isJoint joint),
    List.splitOnP_append_cons _ _ joint, List.filter_append]
  rfl

theorem words_append_dropped (dropped : isRead c = false) (before after : List Char) :
    words (before ++ c :: after) = words (before ++ after) := by
  rw [words, List.filter_append, List.filter_cons_of_neg (by simp [dropped]),
    ← List.filter_append, ← words]

theorem words_joints_append (each : ∀ c ∈ joints, isJoint c = true) (cs : List Char) :
    words (joints ++ cs) = words cs := by
  induction joints with
  | nil => rfl
  | cons c rest ih =>
    have joint := each c (.head _)
    calc words (c :: rest ++ cs) = words [] ++ words (rest ++ cs) := words_append_joint joint [] _
      _ = words cs := ih fun d member => each d (.tail _ member)

theorem words_append_joints (each : ∀ c ∈ joints, isJoint c = true) (cs : List Char) :
    words (cs ++ joints) = words cs := by
  cases joints with
  | nil => rw [List.append_nil]
  | cons c rest =>
    have others := words_joints_append (fun d member => each d (.tail _ member)) ([] : List Char)
    rw [List.append_nil] at others
    rw [words_append_joint (each c (.head _)), others, words_nil, List.append_nil]

theorem words_trimBy (p : Char → Bool) (joints : ∀ c, p c = true → isJoint c = true)
    (cs : List Char) : words (Text.trimBy p cs) = words cs := by
  obtain ⟨front, back, whole, first, last⟩ := Text.exists_trimBy p cs
  conv_rhs => rw [whole]
  rw [words_joints_append fun c member => joints c (first c member),
    words_append_joints fun c member => joints c (last c member)]

/-! ## One pass -/

theorem words_slugStep (slug : List Char) (c : Char) (rest : List Char) :
    words ((slugStep slug c).reverse ++ rest) = words (slug.reverse ++ c :: rest) := by
  have underscore : isJoint '_' = true := by decide
  unfold slugStep
  split_ifs with separator repeated name
  · -- the joint that is skipped comes behind another one
    have joint : isJoint c = true := by simpa [isJoint] using separator
    obtain ⟨written, rfl⟩ := List.head?_eq_some_iff.1 repeated
    rw [words_append_joint joint, List.reverse_cons,
      words_append_joint underscore written.reverse [], words_nil, List.append_nil,
      List.append_assoc, List.singleton_append, words_append_joint underscore]
  · have joint : isJoint c = true := by simpa [isJoint] using separator
    rw [List.reverse_cons, List.append_assoc, List.singleton_append,
      words_append_joint underscore, words_append_joint joint]
  · rw [List.reverse_cons, List.append_assoc, List.singleton_append]
  · have dropped : isRead c = false := by
      rw [not_or] at separator
      simp [isRead, name, separator.1]
    rw [words_append_dropped dropped]

theorem words_foldl_slugStep (cs slug : List Char) :
    words (cs.foldl slugStep slug).reverse = words (slug.reverse ++ cs) := by
  -- what is written so far, read forwards, stands before what is still to come
  induction cs generalizing slug with
  | nil => rw [List.foldl_nil, List.append_nil]
  | cons c rest ih => rw [List.foldl_cons, ih, words_slugStep]

theorem plain_of_isBlank (blank : Text.isBlank c = true) :
    Text.lower c = [c] ∧ foldAccent c = c := by
  -- there is no law for the tables of letters, so that the blanks are gone through one by one
  let blanks : List Nat := [9, 10, 11, 12, 13, 0x20, 0x85, 0xA0, 0x1680, 0x2000, 0x2001, 0x2002,
    0x2003, 0x2004, 0x2005, 0x2006, 0x2007, 0x2008, 0x2009, 0x200A, 0x2028, 0x2029, 0x202F, 0x205F,
    0x3000]
  have all : (blanks.all fun n => Text.lower (Char.ofNat n) == [Char.ofNat n] &&
      foldAccent (Char.ofNat n) == Char.ofNat n) = true := by decide +kernel
  have listed : c.toNat ∈ blanks := by
    simp only [Text.isBlank, Bool.or_eq_true, Bool.and_eq_true, decide_eq_true_eq, beq_iff_eq]
      at blank
    simp only [blanks, List.mem_cons, List.not_mem_nil, or_false]
    omega
  have here := List.all_eq_true.1 all c.toNat listed
  simpa [Char.ofNat_toNat] using here

theorem words_foldedChars (s : String) :
    words (foldedChars s) = words ((s.toList.flatMap Text.lower).map foldAccent) := by
  have folded : ∀ blanks : List Char, (∀ c ∈ blanks, Text.isBlank c = true) →
      (blanks.flatMap Text.lower).map foldAccent = blanks := by
    intro blanks each
    induction blanks with
    | nil => rfl
    | cons c rest ih =>
      obtain ⟨lower, accent⟩ := plain_of_isBlank (each c (.head _))
      rw [List.flatMap_cons, lower, List.singleton_append, List.map_cons, accent,
        ih fun d member => each d (.tail _ member)]
  have joint : ∀ c, Text.isBlank c = true → isJoint c = true := by
    intro c blank
    rw [isJoint, blank, Bool.true_or]
  obtain ⟨front, back, whole, first, last⟩ := Text.exists_trimBy Text.isBlank s.toList
  conv_rhs => rw [whole]
  rw [List.flatMap_append, List.flatMap_append, List.map_append, List.map_append, folded front first,
    folded back last, words_joints_append fun c member => joint c (first c member),
    words_append_joints fun c member => joint c (last c member), foldedChars, Text.trim,
    String.toList_ofList]

/-! ## Words joined -/

theorem splitOn_underscore (chain : cs.IsChain Apart) (last : cs.getLast? ≠ some '_') :
    ∃ piece rest, cs.splitOn '_' = piece :: rest ∧ (∀ other ∈ rest, other ≠ []) ∧
      (piece = [] → cs = [] ∨ cs.head? = some '_') := by
  induction cs with
  | nil => exact ⟨[], [], rfl, by simp, fun _ => .inl rfl⟩
  | cons c rest ih =>
    obtain ⟨next, later⟩ := List.isChain_cons.1 chain
    have lastOfRest : rest.getLast? ≠ some '_' := by
      intro underscore
      cases rest with
      | nil => cases underscore
      | cons d more => exact last (List.getLast?_cons_cons.trans underscore)
    obtain ⟨piece, others, pieces, filled, bare⟩ := ih later lastOfRest
    rw [List.splitOn] at pieces
    rw [List.splitOn, List.splitOnP_cons_eq_if_modifyHead, pieces]
    by_cases underscore : c = '_'
    · refine ⟨[], piece :: others, by simp [underscore], ?_, fun _ => .inr (by rw [underscore]; rfl)⟩
      intro other member
      rcases List.mem_cons.1 member with rfl | another
      · -- an empty piece would stand between this underscore and another one, or the end
        intro nothing
        rcases bare nothing with rfl | first
        · exact last (by rw [underscore]; rfl)
        · exact next '_' first ⟨underscore, rfl⟩
      · exact filled other another
    · exact ⟨c :: piece, others, by simp [underscore], filled, by simp⟩

theorem splitOnP_congr {p q : Char → Bool} (same : ∀ c ∈ cs, p c = q c) :
    cs.splitOnP p = cs.splitOnP q := by
  induction cs with
  | nil => rfl
  | cons c rest ih =>
    rw [List.splitOnP_cons_eq_if_modifyHead, List.splitOnP_cons_eq_if_modifyHead,
      same c (.head _), ih fun d member => same d (.tail _ member)]

theorem joinedWords_of_slugged (form : Slugged cs) : ['_'].intercalate (words cs) = cs := by
  have kept : cs.filter isRead = cs :=
    List.filter_eq_self.2 fun c member => by rw [isRead, form.allowed c member, Bool.true_or]
  have joints : cs.splitOnP isJoint = cs.splitOn '_' := splitOnP_congr fun c member => by
    rw [isJoint, (plain_of_isNameChar (form.allowed c member)).2.2, Bool.false_or]
  obtain ⟨piece, rest, pieces, filled, bare⟩ :=
    splitOn_underscore ((isChain_apart_iff cs).2 form.single) form.last
  by_cases nothing : cs = []
  · rw [nothing]
    rfl
  · have first : piece ≠ [] := fun empty => (bare empty).elim nothing form.first
    have all : (piece :: rest).filter (!·.isEmpty) = piece :: rest := by
      rw [List.filter_eq_self]
      intro other member
      rcases List.mem_cons.1 member with rfl | another
      · simpa using first
      · simpa using filled other another
    rw [words, kept, joints, pieces, all, ← pieces, List.intercalate_splitOn]

/-- A slug is the words of the text, joined. -/
theorem slug_eq_joinedWords (s : String) : slug s = joinedWords s := by
  have underscore : ∀ c, (c == '_') = true → isJoint c = true := by
    intro c same
    rw [isJoint, same, Bool.or_true]
  have same : words (slug s).toList = words ((s.toList.flatMap Text.lower).map foldAccent) := by
    rw [slug, String.toList_ofList, words_trimBy _ underscore, words_foldl_slugStep,
      List.reverse_nil, List.nil_append, words_foldedChars]
  rw [joinedWords, ← same, joinedWords_of_slugged (slug_slugged s), String.ofList_toList]

/-! ## Names -/

theorem utf8ByteSize_slug (s : String) : (slug s).utf8ByteSize = (slug s).length := by
  rw [← length_of_isNameChar (slug_slugged s).allowed, String.length_toList]

theorem checkUsername_slug (s : String) :
    checkUsername (slug s) =
      if (slug s).length < 3 then some .tooShort
      else if 32 < (slug s).length then some .tooLong
      else none := by
  have allowed : (slug s).toList.all isNameChar = true :=
    List.all_eq_true.2 (slug_slugged s).allowed
  rw [checkUsername, utf8ByteSize_slug, if_pos allowed]

/-- What becomes of a text that is read as a name is told by the length of its slug. -/
theorem parse_cases (s : String) :
    (slug s).length < 3 ∧ Username.parse s = .error .tooShort ∨
      32 < (slug s).length ∧ Username.parse s = .error .tooLong ∨
      (3 ≤ (slug s).length ∧ (slug s).length ≤ 32) ∧
        ∃ name, Username.parse s = .ok name ∧ name.text = slug s := by
  have rule := checkUsername_slug s
  split_ifs at rule with short long
  · exact .inl ⟨short, Username.check_of_rule rule⟩
  · exact .inr (.inl ⟨long, Username.check_of_rule rule⟩)
  · exact .inr (.inr ⟨⟨by omega, by omega⟩, Username.exists_check rule⟩)

theorem Username.Normal.parse_text {name : Username} (normal : name.Normal) :
    Username.parse name.text = .ok name := by
  obtain ⟨again, read, text⟩ := Username.exists_check name.allowed
  rw [Username.parse, slug_of_slugged normal.form, read]
  cases again
  cases name
  cases text
  rfl

/-- **A name is read as the words of a text.**  The slug of a text is its words joined.  It is a
name if it has three to thirty-two characters, and is refused for its length otherwise, never for a
character; and a name that is read is in the form of slugs and reads as itself. -/
theorem parse_joins_words (s : String) :
    slug s = joinedWords s ∧
      ((∃ name, Username.parse s = .ok name) ↔ 3 ≤ (slug s).length ∧ (slug s).length ≤ 32) ∧
      ((slug s).length < 3 → ∃ fault, Username.parse s = .error fault ∧
        fault.message = "username must be at least 3 characters") ∧
      (32 < (slug s).length → ∃ fault, Username.parse s = .error fault ∧
        fault.message = "username must be at most 32 characters") ∧
      Username.parse s ≠ .error .forbiddenCharacter ∧
      ∀ name, Username.parse s = .ok name →
        name.text = slug s ∧ name.Normal ∧ Username.parse name.text = .ok name := by
  refine ⟨slug_eq_joinedWords s, ?_⟩
  rcases parse_cases s with ⟨short, failed⟩ | ⟨long, failed⟩ | ⟨⟨least, most⟩, name, read, text⟩
  · rw [failed]
    refine ⟨⟨by simp, fun within => by omega⟩, fun _ => ⟨_, rfl, rfl⟩, fun long => by omega,
      by simp, by simp⟩
  · rw [failed]
    refine ⟨⟨by simp, fun within => by omega⟩, fun short => by omega, fun _ => ⟨_, rfl, rfl⟩,
      by simp, by simp⟩
  · refine ⟨⟨fun _ => ⟨least, most⟩, fun _ => ⟨name, read⟩⟩, fun short => by omega,
      fun long => by omega, by simp [read], ?_⟩
    rintro other again
    obtain rfl : name = other := Except.ok.inj (read.symm.trans again)
    exact ⟨text, Username.parse_normal read, (Username.parse_normal read).parse_text⟩

example : slug "  José   da_Silva!! " = "jose_da_silva" := by decide +kernel

end Depot.Accounts
