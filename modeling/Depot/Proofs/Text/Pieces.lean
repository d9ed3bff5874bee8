import Depot.Text.Pieces
import Mathlib.Data.List.Basic

/-!
# Cutting at marks

What cutting and breaking at a mark give, for texts that are put together from parts without
the mark.
-/

set_option autoImplicit false

namespace Depot.Text

variable {mark : Char}

theorem append_mark_inj {first second tail rest : List Char} (one : mark ∉ tail)
    (two : mark ∉ rest) (same : first ++ mark :: tail = second ++ mark :: rest) :
    first = second ∧ tail = rest := by
  rcases List.append_eq_append_iff.1 same with ⟨more, longer, ends⟩ | ⟨more, longer, ends⟩
  · cases more with
    | nil => simp_all
    | cons c more =>
      -- another mark would stand behind the last one
      rw [List.cons_append, List.cons.injEq] at ends
      rw [ends.2] at one
      simp at one
  · cases more with
    | nil => simp_all
    | cons c more =>
      rw [List.cons_append, List.cons.injEq] at ends
      rw [ends.2] at two
      simp at two

/-! ## Pieces -/

theorem exists_cutAt (mark : Char) (cs : List Char) :
    ∃ piece rest, cutAt mark cs = piece :: rest := by
  cases cs with
  | nil => exact ⟨[], [], rfl⟩
  | cons c cs =>
    unfold cutAt
    split_ifs
    · exact ⟨[], _, rfl⟩
    · split
      · exact ⟨[c], [], rfl⟩
      · exact ⟨_, _, rfl⟩

theorem cutAt_append {part : List Char} (absent : mark ∉ part) (rest : List Char) :
    cutAt mark (part ++ mark :: rest) = part :: cutAt mark rest := by
  induction part with
  | nil => simp [cutAt]
  | cons c part ih =>
    simp only [List.mem_cons, not_or] at absent
    simp [cutAt, Ne.symm absent.1, ih absent.2]

theorem cutAt_of_notMem {part : List Char} (absent : mark ∉ part) : cutAt mark part = [part] := by
  induction part with
  | nil => rfl
  | cons c part ih =>
    simp only [List.mem_cons, not_or] at absent
    simp [cutAt, Ne.symm absent.1, ih absent.2]

/-- The pieces with the marks put back between them are the whole. -/
theorem intercalate_cutAt (mark : Char) (cs : List Char) :
    [mark].intercalate (cutAt mark cs) = cs := by
  induction cs with
  | nil => rfl
  | cons c cs ih =>
    obtain ⟨piece, rest, pieces⟩ := exists_cutAt mark cs
    by_cases here : c = mark
    · rw [cutAt, if_pos here, pieces, List.intercalate_cons_cons, ← pieces, ih, here]
      rfl
    · rw [pieces] at ih
      rw [cutAt, if_neg here, pieces]
      cases rest with
      | nil => simpa using ih
      | cons next others =>
        rw [List.intercalate_cons_cons] at ih
        rw [List.intercalate_cons_cons, ← ih]
        simp

/-! ## Before and behind the first mark -/

theorem breakAt_append {part : List Char} (absent : mark ∉ part) (rest : List Char) :
    breakAt mark (part ++ mark :: rest) = (part, some rest) := by
  induction part with
  | nil => simp [breakAt]
  | cons c part ih =>
    simp only [List.mem_cons, not_or] at absent
    simp [breakAt, Ne.symm absent.1, ih absent.2]

theorem breakAt_of_notMem {part : List Char} (absent : mark ∉ part) :
    breakAt mark part = (part, none) := by
  induction part with
  | nil => rfl
  | cons c part ih =>
    simp only [List.mem_cons, not_or] at absent
    simp [breakAt, Ne.symm absent.1, ih absent.2]

theorem breakAt_fst (mark : Char) (cs : List Char) :
    (breakAt mark cs).1 = cs.takeWhile (· ≠ mark) := by
  induction cs with
  | nil => rfl
  | cons c cs ih =>
    by_cases here : c = mark
    · simp [breakAt, here]
    · simp [breakAt, here, ih]

theorem dropWhile_append_mark {part : List Char} (absent : mark ∉ part)
    (rest : List Char) : (part ++ mark :: rest).dropWhile (· ≠ mark) = mark :: rest := by
  induction part with
  | nil => simp
  | cons c part ih =>
    simp only [List.mem_cons, not_or] at absent
    rw [List.cons_append, List.dropWhile_cons_of_pos (by simpa using Ne.symm absent.1),
      ih absent.2]

theorem mark_append_inj {first second tail rest : List Char} (one : mark ∉ first)
    (two : mark ∉ second) (same : first ++ mark :: tail = second ++ mark :: rest) :
    first = second ∧ tail = rest := by
  have whole := congrArg (breakAt mark) same
  rw [breakAt_append one, breakAt_append two] at whole
  simpa using whole

/-! ## Where pieces stand -/

theorem head?_cutAt_iff {piece cs : List Char} :
    (cutAt mark cs).head? = some piece ↔ mark ∉ piece ∧ piece ++ [mark] <+: cs ++ [mark] := by
  obtain ⟨first, rest, whole, absent, head⟩ : ∃ first rest, cs ++ [mark] = first ++ mark :: rest ∧
      mark ∉ first ∧ (cutAt mark cs).head? = some first := by
    by_cases marked : mark ∈ cs
    · obtain ⟨first, rest, rfl, absent⟩ := List.eq_append_cons_of_mem marked
      exact ⟨first, rest ++ [mark], by simp, absent, by rw [cutAt_append absent, List.head?_cons]⟩
    · exact ⟨cs, [], rfl, marked, by rw [cutAt_of_notMem marked, List.head?_cons]⟩
  rw [head, whole, Option.some.injEq]
  constructor
  · rintro rfl
    exact ⟨absent, rest, by simp⟩
  · rintro ⟨clear, after, shape⟩
    rw [List.append_assoc, List.singleton_append] at shape
    exact (mark_append_inj clear absent shape).1.symm

theorem mem_cutAt_iff {piece cs : List Char} :
    piece ∈ cutAt mark cs ↔
      mark ∉ piece ∧ mark :: (piece ++ [mark]) <:+: mark :: (cs ++ [mark]) := by
  by_cases marked : mark ∈ cs
  · obtain ⟨part, rest, whole, absent⟩ := List.eq_append_cons_of_mem marked
    have shorter : rest.length < cs.length := by
      rw [whole, List.length_append, List.length_cons]
      omega
    have later := @mem_cutAt_iff piece rest
    subst whole
    rw [cutAt_append absent, List.mem_cons, later]
    constructor
    · rintro (rfl | ⟨clear, before, after, shape⟩)
      · exact ⟨absent, [], rest ++ [mark], by simp⟩
      · refine ⟨clear, mark :: part ++ before, after, ?_⟩
        simpa [List.append_assoc] using congrArg (mark :: part ++ ·) shape
    · rintro ⟨clear, before, after, shape⟩
      cases before with
      | nil =>
        have starts : piece ++ mark :: after = part ++ mark :: (rest ++ [mark]) := by
          simpa using shape
        exact .inl (mark_append_inj clear absent starts).1
      | cons c before =>
        -- the mark before the piece is the one behind the part, or a later one
        have behind : before ++ mark :: (piece ++ mark :: after) =
            part ++ mark :: (rest ++ [mark]) := by simpa using (List.cons.inj shape).2
        refine .inr ⟨clear, ?_⟩
        rcases List.append_eq_append_iff.1 behind with ⟨more, whole, ends⟩ | ⟨more, -, ends⟩
        · cases more with
          | nil => exact ⟨[], after, by simpa using ends⟩
          | cons m more =>
            obtain rfl := (List.cons.inj ends).1
            simp [whole] at absent
        · exact ⟨more, after, by simpa using ends.symm⟩
  · rw [cutAt_of_notMem marked, List.mem_singleton]
    constructor
    · rintro rfl
      exact ⟨marked, List.infix_rfl⟩
    · rintro ⟨clear, before, after, shape⟩
      have marks := congrArg (List.count mark) shape
      simp only [List.count_append, List.count_cons_self, List.count_nil,
        List.count_eq_zero_of_not_mem clear, List.count_eq_zero_of_not_mem marked] at marks
      cases before with
      | nil =>
        have starts : piece ++ mark :: after = cs ++ mark :: [] := by simpa using shape
        exact (mark_append_inj clear marked starts).1
      | cons c before =>
        obtain rfl : c = mark := (List.cons.inj shape).1
        rw [List.count_cons_self] at marks
        omega
termination_by cs.length

theorem mem_segments_iff {s piece : String} :
    piece ∈ segments s ↔ '/' ∉ piece.toList ∧
      ("/" ++ piece ++ "/").toList <:+: ("/" ++ s ++ "/").toList := by
  have member : piece ∈ segments s ↔ piece.toList ∈ cutAt '/' s.toList := by
    constructor
    · intro member
      obtain ⟨cs, found, rfl⟩ := List.mem_map.1 member
      rwa [String.toList_ofList]
    · intro found
      exact List.mem_map.2 ⟨_, found, String.ofList_toList⟩
  rw [member, mem_cutAt_iff]
  simp

theorem head?_segments_iff {s piece : String} :
    (segments s).head? = some piece ↔ '/' ∉ piece.toList ∧
      (piece ++ "/").toList <+: (s ++ "/").toList := by
  have first : (segments s).head? = some piece ↔ (cutAt '/' s.toList).head? = some piece.toList := by
    rw [segments, List.head?_map, Option.map_eq_some_iff]
    constructor
    · rintro ⟨cs, head, rfl⟩
      rw [head, String.toList_ofList]
    · intro head
      exact ⟨_, head, String.ofList_toList⟩
  rw [first, head?_cutAt_iff]
  simp

end Depot.Text
