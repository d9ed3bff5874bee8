import Depot.Proofs.Accounts.Words

/-!
# Names with drawn endings

A text is made a name of its own by an underscore and five drawn letters or digits behind its slug.
The whole is checked, but not read again.  So it is in the form of slugs, and reads as itself, just
if there is a slug before the underscore; a text without words gives a name that begins with the
underscore and reads as the ending alone.
-/

set_option autoImplicit false

namespace Depot

theorem Draws.length_take (low high count : Nat) (draws : Draws) :
    (draws.take low high count).1.length = count := by
  induction count generalizing draws with
  | zero => rfl
  | succ count ih => exact congrArg (· + 1) (ih _)

namespace Accounts

variable {s : String} {draws : List Nat} {unique : Username}

theorem properDraws_of_within {rng : Draws}
    (within : ∀ draw ∈ (drawEnding rng).1, draw ≤ endingAlphabet.length - 1) :
    ProperDraws (drawEnding rng).1 := by
  have letters : endingAlphabet.length = 36 := by decide
  refine ⟨Draws.length_take _ _ _ _, fun draw drawn => ?_⟩
  have bound := within draw drawn
  omega

/-! ## Length -/

theorem toList_underscore : "_".toList = ['_'] := by decide

theorem size_append_ending (proper : ProperDraws draws) (s : String) :
    (slug s ++ "_" ++ ending draws).utf8ByteSize = (slug s).utf8ByteSize + 6 ∧
      ∀ c ∈ (slug s ++ "_" ++ ending draws).toList, isNameChar c = true := by
  have plain := ending_chars proper
  have size : (ending draws).utf8ByteSize = 5 := by
    rw [← length_of_isNameChar fun c member => (plain c member).1, ending, String.toList_ofList,
      List.length_map, proper.length, endingLength]
  have underscore : "_".utf8ByteSize = 1 := by decide
  constructor
  · rw [String.utf8ByteSize_append, String.utf8ByteSize_append, size, underscore]
  · intro c member
    simp only [String.toList_append, List.mem_append] at member
    rcases member with (early | middle) | late
    · exact (slug_slugged s).allowed c early
    · rw [toList_underscore, List.mem_singleton] at middle
      rw [middle]
      decide
    · exact (plain c late).1

theorem uniqueName_cases (proper : ProperDraws draws) (s : String) :
    26 < (slug s).utf8ByteSize ∧ uniqueName s draws = .error .tooLong ∨
      (slug s).utf8ByteSize ≤ 26 ∧ ∃ unique, uniqueName s draws = .ok unique ∧
        unique.text = slug s ++ "_" ++ ending draws := by
  obtain ⟨size, allowed⟩ := size_append_ending proper s
  by_cases long : 26 < (slug s).utf8ByteSize
  · refine .inl ⟨long, Username.check_of_rule ?_⟩
    rw [checkUsername, if_neg (by omega), if_pos (by omega)]
  · refine .inr ⟨by omega, Username.exists_check ?_⟩
    rw [checkUsername, if_neg (by omega), if_neg (by omega),
      if_pos (List.all_eq_true.2 allowed)]

theorem uniqueName_of_normal {name : Username} (normal : name.Normal)
    (proper : ProperDraws draws) :
    26 < name.text.utf8ByteSize ∧ uniqueName name.text draws = .error .tooLong ∨
      name.text.utf8ByteSize ≤ 26 ∧ ∃ unique, uniqueName name.text draws = .ok unique ∧
        unique.text = name.text ++ "_" ++ ending draws := by
  have cases := uniqueName_cases proper name.text
  rwa [slug_of_slugged normal.form] at cases

/-! ## Form -/

theorem uniqueName_normal_iff (proper : ProperDraws draws)
    (made : uniqueName s draws = .ok unique) : unique.Normal ↔ slug s ≠ "" := by
  have text := Username.text_of_check made
  constructor
  · intro normal nothing
    rw [nothing] at text
    exact normal.form.first (by rw [text, String.toList_append, String.toList_append]; rfl)
  · intro something
    have filled : (slug s).toList ≠ [] := by rwa [ne_eq, String.toList_eq_nil_iff]
    refine Username.normal_of_slugged ?_
    rw [text, String.toList_append, String.toList_append, List.append_assoc]
    exact (slug_slugged s).append filled (ending_chars proper) (ending_ne_nil proper)

theorem Username.Normal.ne_empty {name : Username} (normal : name.Normal) : name.text ≠ "" := by
  intro nothing
  have long := normal.long
  rw [nothing] at long
  contradiction

theorem uniqueName_normal {name : Username} (normal : name.Normal) (proper : ProperDraws draws)
    (made : uniqueName name.text draws = .ok unique) : unique.Normal := by
  refine (uniqueName_normal_iff proper made).2 ?_
  rw [slug_of_slugged normal.form]
  exact normal.ne_empty

theorem slug_underscore_append (form : Slugged s.toList) : slug ("_" ++ s) = s := by
  have allowed : ∀ c ∈ ("_" ++ s).toList, isNameChar c = true := by
    intro c member
    rw [String.toList_append, List.mem_append] at member
    rcases member with first | later
    · rw [toList_underscore, List.mem_singleton] at first
      rw [first]
      decide
    · exact form.allowed c later
  have joint : ∀ c ∈ "_".toList, isJoint c = true := by
    intro c member
    rw [toList_underscore, List.mem_singleton] at member
    rw [member]
    decide
  rw [slug_eq_joinedWords, joinedWords, ← words_foldedChars, foldedChars_eq allowed,
    String.toList_append, words_joints_append joint, joinedWords_of_slugged form,
    String.ofList_toList]

theorem parse_uniqueName_of_wordless (proper : ProperDraws draws)
    (made : uniqueName s draws = .ok unique) (wordless : slug s = "") :
    ∃ other, Username.parse unique.text = .ok other ∧ other.text = ending draws := by
  have plain := ending_chars proper
  have read : slug unique.text = ending draws := by
    rw [Username.text_of_check made, wordless, String.empty_append,
      slug_underscore_append (slugged_of_plain plain)]
  have five : (ending draws).length = 5 := by
    rw [ending, String.length_ofList, List.length_map, proper.length, endingLength]
  rw [← read] at five
  rcases parse_cases unique.text with ⟨short, -⟩ | ⟨long, -⟩ | ⟨-, other, parsed, text⟩
  · omega
  · omega
  · exact ⟨other, parsed, text.trans read⟩

/-- **A drawn name reads as itself just if the text has words.**  As long as the numbers drawn are
within the range that is asked for, each has its letter or digit; the name is the slug of the text
with the ending, if it is not too long; it is in the form that reading gives, and reads as itself,
exactly if the slug is not empty; and otherwise it reads as another name, the ending alone. -/
theorem uniqueName_reads_back_iff {rng : Draws}
    (within : ∀ draw ∈ (drawEnding rng).1, draw ≤ endingAlphabet.length - 1) (s : String) :
    (∀ draw ∈ (drawEnding rng).1, draw < endingAlphabet.length) ∧
      ((∃ unique, uniqueName s (drawEnding rng).1 = .ok unique) ↔ (slug s).length ≤ 26) ∧
      ∀ unique, uniqueName s (drawEnding rng).1 = .ok unique →
        unique.text = slug s ++ "_" ++ ending (drawEnding rng).1 ∧
          (unique.Normal ↔ slug s ≠ "") ∧
          (Username.parse unique.text = .ok unique ↔ slug s ≠ "") ∧
          (slug s = "" → ∃ other, Username.parse unique.text = .ok other ∧
            other.text = ending (drawEnding rng).1) := by
  have proper := properDraws_of_within within
  refine ⟨proper.range, ?_, fun unique made => ?_⟩
  · rw [← utf8ByteSize_slug]
    rcases uniqueName_cases proper s with ⟨long, failed⟩ | ⟨short, unique, made, -⟩
    · rw [failed]
      simpa using long
    · exact ⟨fun _ => short, fun _ => ⟨unique, made⟩⟩
  · have normal := uniqueName_normal_iff proper made
    exact ⟨Username.text_of_check made, normal,
      ⟨fun read => normal.1 (Username.parse_normal read), fun words => (normal.2 words).parse_text⟩,
      parse_uniqueName_of_wordless proper made⟩

def fiveDraws : Draws := .scripted [0, 1, 2, 26, 35]

theorem uniqueName_reads_back_iff_words :
    ∃ unique, uniqueName "Ana Lima" (drawEnding fiveDraws).1 = .ok unique ∧
      unique.text = "ana_lima_abc09" ∧ Username.parse unique.text = .ok unique := by
  obtain ⟨-, made, each⟩ := @uniqueName_reads_back_iff fiveDraws (by decide) "Ana Lima"
  obtain ⟨unique, made⟩ := made.2 (by decide +kernel)
  obtain ⟨text, -, reads, -⟩ := each unique made
  exact ⟨unique, made, text.trans (by decide +kernel), reads.2 (by decide +kernel)⟩

theorem underscored_allowed :
    checkUsername "_abc09" = none ∧ checkUsername "abc09" = none := by decide +kernel

/-- A text without words gives a name that is not in form and reads as another. -/
theorem wordless_reads_as_other :
    (∀ draw ∈ (drawEnding fiveDraws).1, draw ≤ endingAlphabet.length - 1) ∧
      ∃ unique other, uniqueName "!!!" (drawEnding fiveDraws).1 = .ok unique ∧
        unique.text = "_abc09" ∧ Username.parse unique.text = .ok other ∧
        other.text = "abc09" ∧ ¬ unique.Normal := by
  refine ⟨by decide, ⟨"_abc09", underscored_allowed.1⟩, ⟨"abc09", underscored_allowed.2⟩,
    by decide +kernel, rfl, by decide +kernel, rfl, fun normal => ?_⟩
  exact normal.form.first (by decide)

end Accounts

end Depot
