import Depot.Accounts.UniqueName
import Depot.Proofs.Text.Trimming
import Mathlib.Data.List.Chain

/-!
# Slugs

A slug has only characters of names, no underscore at either end and no two together.  A
text of that kind is its own slug, so that a name keeps its form when it is read again,
and when an underscore and a drawn ending are added to it.
-/

set_option autoImplicit false

namespace Depot.Accounts

/-! ## Characters of names -/

theorem code_lt_of_isNameChar {c : Char} (allowed : isNameChar c = true) : c.toNat < 128 := by
  simp only [isNameChar, Bool.or_eq_true, Bool.and_eq_true, decide_eq_true_eq, beq_iff_eq]
    at allowed
  rcases allowed with (⟨-, small⟩ | ⟨-, digit⟩) | underscore
  · have code : c.toNat ≤ 122 := small
    omega
  · have code : c.toNat ≤ 57 := digit
    omega
  · rw [underscore]
    decide

theorem plain_of_isNameChar {c : Char} (allowed : isNameChar c = true) :
    Text.lower c = [c] ∧ foldAccent c = c ∧ Text.isBlank c = false := by
  have all : ∀ n : Fin 128, isNameChar (Char.ofNat n) = true →
      Text.lower (Char.ofNat n) = [Char.ofNat n] ∧ foldAccent (Char.ofNat n) = Char.ofNat n ∧
        Text.isBlank (Char.ofNat n) = false := by decide +kernel
  have here := all ⟨c.toNat, code_lt_of_isNameChar allowed⟩
  rw [Char.ofNat_toNat] at here
  exact here allowed

theorem length_of_isNameChar {s : String} (allowed : ∀ c ∈ s.toList, isNameChar c = true) :
    s.toList.length = s.utf8ByteSize := by
  have bytes (cs : List Char) (allowed : ∀ c ∈ cs, isNameChar c = true) :
      cs.utf8Encode.size = cs.length := by
    induction cs with
    | nil => rfl
    | cons c rest ih =>
      have short : c.utf8Size = 1 := by
        rw [Char.utf8Size_eq_one_iff]
        have code := code_lt_of_isNameChar (allowed c (.head _))
        exact Nat.le_of_lt_succ code
      rw [List.utf8Encode_cons, ByteArray.size_append, ih fun other member =>
        allowed other (.tail _ member), List.utf8Encode_singleton, List.length_cons]
      simp [short]
      omega
  rw [← bytes s.toList allowed, ← String.toByteArray_ofList, String.ofList_toList]
  rfl

/-! ## The form of slugs -/

/-- Characters of names, no underscore at either end, and no two together. -/
structure Slugged (cs : List Char) : Prop where
  allowed : ∀ c ∈ cs, isNameChar c = true
  first : cs.head? ≠ some '_'
  last : cs.getLast? ≠ some '_'
  single : ¬ ['_', '_'] <:+: cs

/-- Characters that may follow each other in a slug. -/
def Apart (c d : Char) : Prop := ¬ (c = '_' ∧ d = '_')

theorem isChain_apart_iff (cs : List Char) : cs.IsChain Apart ↔ ¬ ['_', '_'] <:+: cs := by
  rw [List.isChain_iff_forall_rel_of_append_cons_cons]
  constructor
  · rintro apart ⟨before, after, rfl⟩
    exact apart (List.append_assoc before ['_', '_'] after) ⟨rfl, rfl⟩
  · rintro single c d before after rfl ⟨rfl, rfl⟩
    exact single ⟨before, after, List.append_assoc before ['_', '_'] after⟩

theorem isChain_apart_reverse {cs : List Char} (chain : cs.IsChain Apart) :
    cs.reverse.IsChain Apart := by
  rw [List.isChain_reverse]
  refine chain.imp fun c d apart both => apart ⟨both.2, both.1⟩

theorem slugStep_allowed {slug : List Char} (allowed : ∀ c ∈ slug, isNameChar c = true)
    (c : Char) : ∀ d ∈ slugStep slug c, isNameChar d = true := by
  unfold slugStep
  split_ifs with separator repeated name
  · exact allowed
  · intro d member
    rcases List.mem_cons.1 member with rfl | present
    · decide
    · exact allowed d present
  · intro d member
    rcases List.mem_cons.1 member with rfl | present
    · exact name
    · exact allowed d present
  · exact allowed

theorem slugStep_chain {slug : List Char} (chain : slug.IsChain Apart) (c : Char) :
    (slugStep slug c).IsChain Apart := by
  unfold slugStep
  split_ifs with separator repeated name
  · exact chain
  · refine List.isChain_cons.2 ⟨?_, chain⟩
    rintro d first ⟨-, rfl⟩
    exact repeated first
  · refine List.isChain_cons.2 ⟨?_, chain⟩
    rintro d - ⟨same, -⟩
    exact separator (.inr same)
  · exact chain

theorem foldl_slugStep {slug : List Char}
    (form : (∀ c ∈ slug, isNameChar c = true) ∧ slug.IsChain Apart) (cs : List Char) :
    (∀ c ∈ cs.foldl slugStep slug, isNameChar c = true) ∧
      (cs.foldl slugStep slug).IsChain Apart := by
  induction cs generalizing slug with
  | nil => exact form
  | cons c rest ih => exact ih ⟨slugStep_allowed form.1 c, slugStep_chain form.2 c⟩

theorem slug_slugged (s : String) : Slugged (slug s).toList := by
  obtain ⟨allowed, chain⟩ := @foldl_slugStep [] ⟨by simp, .nil⟩ (foldedChars s)
  rw [slug, String.toList_ofList]
  have part := Text.trimBy_isInfix (· == '_') ((foldedChars s).foldl slugStep []).reverse
  have trimmed := Text.trimmed_trimBy (· == '_') ((foldedChars s).foldl slugStep []).reverse
  constructor
  · intro c member
    exact allowed c (List.mem_reverse.1 (part.subset member))
  · intro first
    have bare : ('_' == '_') = false := trimmed.first '_' first
    simp at bare
  · intro last
    have bare : ('_' == '_') = false := trimmed.last '_' last
    simp at bare
  · intro twice
    have single := (isChain_apart_iff _).1 (isChain_apart_reverse chain)
    exact single (twice.trans part)

/-! ## Slugs of slugs -/

theorem foldl_slugStep_eq {cs : List Char} (allowed : ∀ c ∈ cs, isNameChar c = true)
    (chain : cs.IsChain Apart) {slug : List Char}
    (joint : ∀ c ∈ slug.head?, ∀ d ∈ cs.head?, Apart c d) :
    cs.foldl slugStep slug = cs.reverse ++ slug := by
  induction cs generalizing slug with
  | nil => rfl
  | cons c rest ih =>
    have step : slugStep slug c = c :: slug := by
      have name := allowed c (.head _)
      unfold slugStep
      split_ifs with separator repeated
      · have underscore : c = '_' :=
          separator.resolve_left (by simp [(plain_of_isNameChar name).2.2])
        exact absurd ⟨rfl, underscore⟩ (joint '_' repeated c rfl)
      · have underscore : c = '_' :=
          separator.resolve_left (by simp [(plain_of_isNameChar name).2.2])
        rw [underscore]
      · rfl
    obtain ⟨next, later⟩ := List.isChain_cons.1 chain
    rw [List.foldl_cons, step, ih (fun d member => allowed d (.tail _ member)) later,
      List.reverse_cons, List.append_assoc]
    · rfl
    · rintro d same e first
      rw [← Option.some.inj same]
      exact next e first

theorem foldedChars_eq {s : String} (allowed : ∀ c ∈ s.toList, isNameChar c = true) :
    foldedChars s = s.toList := by
  have bare : Text.Trimmed Text.isBlank s.toList := by
    constructor
    · intro c first
      exact (plain_of_isNameChar (allowed c (List.mem_of_mem_head? first))).2.2
    · intro c last
      exact (plain_of_isNameChar (allowed c (List.mem_of_getLast? last))).2.2
  have folded : ∀ cs : List Char, (∀ c ∈ cs, isNameChar c = true) →
      (cs.flatMap Text.lower).map foldAccent = cs := by
    intro cs allowed
    induction cs with
    | nil => rfl
    | cons c rest ih =>
      obtain ⟨lower, accent, -⟩ := plain_of_isNameChar (allowed c (.head _))
      rw [List.flatMap_cons, lower, List.singleton_append, List.map_cons, accent,
        ih fun d member => allowed d (.tail _ member)]
  rw [foldedChars, Text.trim, String.toList_ofList, bare.trimBy_eq, folded _ allowed]

theorem slug_of_slugged {s : String} (form : Slugged s.toList) : slug s = s := by
  have chain := (isChain_apart_iff s.toList).2 form.single
  have bare : Text.Trimmed (· == '_') s.toList := by
    constructor
    · rintro c first
      by_contra underscore
      rw [Bool.not_eq_false, beq_iff_eq] at underscore
      exact form.first (underscore ▸ first)
    · rintro c last
      by_contra underscore
      rw [Bool.not_eq_false, beq_iff_eq] at underscore
      exact form.last (underscore ▸ last)
  rw [slug, foldedChars_eq form.allowed, foldl_slugStep_eq form.allowed chain (by simp),
    List.append_nil, List.reverse_reverse, bare.trimBy_eq, String.ofList_toList]

/-! ## Names -/

namespace Username

variable {name : Username}

/-- A name in the form that reading gives. -/
structure Normal (name : Username) : Prop where
  long : 3 ≤ name.text.toList.length
  short : name.text.toList.length ≤ 32
  form : Slugged name.text.toList

theorem rule (name : Username) : 3 ≤ name.text.utf8ByteSize ∧ name.text.utf8ByteSize ≤ 32 ∧
    ∀ c ∈ name.text.toList, isNameChar c = true := by
  have allowed := name.allowed
  unfold checkUsername at allowed
  split_ifs at allowed with tooShort tooLong chars
  refine ⟨by omega, by omega, ?_⟩
  exact List.all_eq_true.1 chars

theorem normal_of_slugged (form : Slugged name.text.toList) : name.Normal := by
  obtain ⟨long, short, allowed⟩ := name.rule
  rw [← length_of_isNameChar allowed] at long short
  exact ⟨long, short, form⟩

theorem check_of_rule {s : String} {fault : UsernameFault}
    (broken : checkUsername s = some fault) : check s = .error fault := by
  unfold check
  split
  · rename_i kept
    rw [broken] at kept
    cases kept
  · rename_i other found
    rw [broken, Option.some.injEq] at found
    rw [found]

theorem exists_check {s : String} (kept : checkUsername s = none) :
    ∃ name, check s = .ok name ∧ name.text = s := by
  unfold check
  split
  · exact ⟨_, rfl, rfl⟩
  · rename_i fault broken
    rw [kept] at broken
    cases broken

theorem text_of_check {s : String} (checked : check s = .ok name) : name.text = s := by
  unfold check at checked
  split at checked
  · cases checked
    rfl
  · cases checked

theorem parse_normal {s : String} (read : parse s = .ok name) : name.Normal := by
  refine normal_of_slugged ?_
  rw [text_of_check read]
  exact slug_slugged s

end Username

/-! ## Drawn endings -/

structure ProperDraws (draws : List Nat) : Prop where
  length : draws.length = endingLength
  range : ∀ draw ∈ draws, draw < endingAlphabet.length

theorem ending_chars {draws : List Nat} (proper : ProperDraws draws) :
    ∀ c ∈ (ending draws).toList, isNameChar c = true ∧ c ≠ '_' := by
  have alphabet : (endingAlphabet.all fun c => isNameChar c && c != '_') = true := by
    decide +kernel
  intro c member
  rw [ending, String.toList_ofList] at member
  obtain ⟨draw, drawn, rfl⟩ := List.mem_map.1 member
  have bound := proper.range draw drawn
  rw [List.getD_eq_getElem?_getD, List.getElem?_eq_getElem bound, Option.getD_some]
  simpa using List.all_eq_true.1 alphabet _ (List.getElem_mem bound)

theorem ending_ne_nil {draws : List Nat} (proper : ProperDraws draws) :
    (ending draws).toList ≠ [] := by
  intro nothing
  have length := congrArg List.length nothing
  rw [ending, String.toList_ofList, List.length_map, proper.length] at length
  contradiction

theorem slugged_of_plain {cs : List Char} (plain : ∀ c ∈ cs, isNameChar c = true ∧ c ≠ '_') :
    Slugged cs := by
  constructor
  · exact fun c member => (plain c member).1
  · exact fun first => (plain '_' (List.mem_of_mem_head? first)).2 rfl
  · exact fun last => (plain '_' (List.mem_of_getLast? last)).2 rfl
  · exact fun twice => (plain '_' (twice.subset (.head _))).2 rfl

theorem Slugged.append {cs ending : List Char} (form : Slugged cs) (filled : cs ≠ [])
    (plain : ∀ c ∈ ending, isNameChar c = true ∧ c ≠ '_') (more : ending ≠ []) :
    Slugged (cs ++ '_' :: ending) := by
  constructor
  · intro c member
    rcases List.mem_append.1 member with early | late
    · exact form.allowed c early
    · rcases List.mem_cons.1 late with rfl | last
      · decide
      · exact (plain c last).1
  · rw [List.head?_append_of_ne_nil cs filled]
    exact form.first
  · intro last
    have inside : (cs ++ '_' :: ending).getLast? = ending.getLast? := by
      rw [List.getLast?_append_of_ne_nil _ (by simp), List.getLast?_cons_of_ne_nil more]
    rw [inside] at last
    exact (plain '_' (List.mem_of_getLast? last)).2 rfl
  · rw [← isChain_apart_iff, List.isChain_append]
    have tail := (isChain_apart_iff ending).2 (slugged_of_plain plain).single
    refine ⟨(isChain_apart_iff cs).2 form.single, List.isChain_cons.2 ⟨?_, tail⟩, ?_⟩
    · rintro c first ⟨-, rfl⟩
      exact (plain '_' (List.mem_of_mem_head? first)).2 rfl
    · rintro c last d - ⟨rfl, -⟩
      exact form.last last

end Depot.Accounts
