import Depot.Proofs.Blobs.Tree

/-!
# Directories made on the way

Making a directory and those above it adds directories where nothing was, on the way and
nowhere else, whether it succeeds or fails half-way.  It fails only where a file is on the way
or a text or a name is too long.
-/

set_option autoImplicit false

namespace Depot.Blobs.Disk

variable {disk : Disk}

/-- A disk has grown by directories on the way to a place. -/
structure Grown (disk grown : Disk) (place : List String) : Prop where
  root : grown.rootLength = disk.rootLength
  node : ∀ spot, grown.node? spot = disk.node? spot ∨
    disk.node? spot = none ∧ grown.node? spot = some .directory ∧ spot <+: place

theorem Grown.refl (disk : Disk) (place : List String) : Grown disk disk place :=
  ⟨rfl, fun _ => .inl rfl⟩

theorem Grown.trans {middle grown : Disk} {above place : List String}
    (first : Grown disk middle above) (second : Grown middle grown place)
    (part : above <+: place) : Grown disk grown place := by
  refine ⟨second.root.trans first.root, fun spot => ?_⟩
  rcases first.node spot with same | ⟨missing, made, before⟩
  · rw [← same]
    exact second.node spot
  · rcases second.node spot with kept | ⟨lost, -⟩
    · exact .inr ⟨missing, kept.trans made, before.trans part⟩
    · rw [lost] at made
      contradiction

theorem Grown.file_iff {grown : Disk} {place spot : List String} {bytes : ByteArray}
    (growth : Grown disk grown place) :
    grown.node? spot = some (.file bytes) ↔ disk.node? spot = some (.file bytes) := by
  rcases growth.node spot with same | ⟨missing, made, -⟩
  · rw [same]
  · simp [missing, made]

theorem Grown.keeps {grown : Disk} {place spot : List String} {node : Node}
    (growth : Grown disk grown place) (found : disk.node? spot = some node) :
    grown.node? spot = some node := by
  rcases growth.node spot with same | ⟨missing, -⟩
  · rw [same, found]
  · rw [missing] at found
    contradiction

theorem Grown.paved {grown : Disk} {place spot : List String} (growth : Grown disk grown place)
    (paved : disk.Paved spot) : grown.Paved spot :=
  fun front some part => growth.keeps (paved front some part)

theorem Grown.noDirectory {grown : Disk} {place : List String}
    (growth : Grown disk grown place.dropLast) (below : place ≠ [])
    (absent : disk.node? place ≠ some .directory) : grown.node? place ≠ some .directory := by
  rcases growth.node place with same | ⟨-, -, part⟩
  · rw [same]
    exact absent
  · exact absurd part (not_isPrefix_dropLast below)

/-! ## One directory -/

theorem makeDirectory_ok {made : Disk} {steps : List String}
    (success : disk.makeDirectory steps = .ok made) :
    downward steps ≠ [] ∧ disk.Paved (downward steps).dropLast ∧
      disk.node? (downward steps) = none ∧ made = disk.set (downward steps) .directory := by
  rw [makeDirectory_eq] at success
  cases approached : disk.approach steps with
  | error fault => simp [approached, bind, Except.bind] at success
  | ok place =>
    obtain ⟨-, rfl, paved, -⟩ := approach_ok approached
    simp only [approached, bind, Except.bind] at success
    cases idle : isIdle (route steps).last with
    | true => simp [idle] at success
    | false =>
      have named : downward steps = downward (route steps).before ++ [(route steps).last] := by
        rw [downward_route, downward_singleton idle]
      simp only [idle, Bool.false_eq_true, if_false] at success
      unfold look at success
      by_cases long : maxName < (route steps).last.utf8ByteSize
      · simp [long] at success
      · rw [if_neg long, ← named] at success
        rw [named, List.dropLast_concat, ← named]
        refine ⟨by simp [named], paved, ?_⟩
        cases found : disk.node? (downward steps) with
        | none => simpa [found, pure, Except.pure, eq_comm] using success
        | some node => simp [found] at success

theorem leadsToDirectory_iff {steps : List String} :
    disk.leadsToDirectory steps = true ↔ disk.find steps = .ok .directory := by
  unfold leadsToDirectory
  cases disk.find steps with
  | error fault => simp
  | ok node => cases node <;> simp

theorem settle_grown (disk : Disk) (steps : List String) :
    Grown disk (settle disk steps (disk.makeDirectory steps)).2 (downward steps) ∧
      ((settle disk steps (disk.makeDirectory steps)).1 = .ok () →
        (settle disk steps (disk.makeDirectory steps)).2.Paved (downward steps)) := by
  cases outcome : disk.makeDirectory steps with
  | ok made =>
    obtain ⟨below, paved, missing, rfl⟩ := makeDirectory_ok outcome
    have nodes := @node?_set disk _ below .directory
    have growth : Grown disk (disk.set (downward steps) .directory) (downward steps) := by
      refine ⟨rfl, fun spot => ?_⟩
      rw [nodes]
      by_cases here : spot = downward steps
      · subst here
        exact .inr ⟨missing, Function.update_self .., List.prefix_rfl⟩
      · exact .inl (Function.update_of_ne here ..)
    refine ⟨growth, fun _ => (growth.paved paved).of_dropLast ?_⟩
    rw [nodes, Function.update_self]
  | error fault =>
    unfold settle
    by_cases leads : disk.leadsToDirectory steps = true
    · obtain ⟨-, paved, there, -⟩ := find_ok (leadsToDirectory_iff.1 leads)
      simp only [leads, if_true]
      exact ⟨Grown.refl .., fun _ => paved.of_dropLast there⟩
    · simp only [leads]
      exact ⟨Grown.refl .., by simp⟩

theorem makeDirectory_filed {steps : List String} (filed : Filed disk.rootLength steps)
    (paved : disk.Paved (downward steps).dropLast) :
    disk.makeDirectory steps = match disk.node? (downward steps) with
      | some _ => .error .alreadyThere
      | none => .ok (disk.set (downward steps) .directory) := by
  obtain ⟨front, last, parts, down, named, short, sizes⟩ := filed.parts
  rw [named, List.dropLast_concat] at paved
  rw [makeDirectory_eq, approach_paved filed.fits parts sizes paved, named]
  simp only [bind, Except.bind, parts, down, look_short short]
  cases disk.node? (downward front ++ [last]) <;> rfl

theorem settle_ok {steps : List String} (filed : Filed disk.rootLength steps)
    (paved : disk.Paved (downward steps).dropLast)
    (free : ∀ bytes, disk.node? (downward steps) ≠ some (.file bytes)) :
    (settle disk steps (disk.makeDirectory steps)).1 = .ok () := by
  have found := find_filed filed paved
  rw [makeDirectory_filed filed paved]
  cases there : disk.node? (downward steps) with
  | none => rfl
  | some node =>
    cases node with
    | file bytes => exact absurd there (free bytes)
    | directory => simp [settle, leadsToDirectory, found, there]

/-! ## All directories of a way -/

theorem isPrefix_downward_above (steps : List String) :
    downward (above steps) <+: downward steps := by
  rw [downward_above]
  exact List.dropLast_prefix _

/-- Directories are made on the way only, and all of it is paved if all of them are made. -/
theorem makeDirectories_grown (disk : Disk) (steps : List String) :
    Grown disk (disk.makeDirectories steps).2 (downward steps) ∧
      ((disk.makeDirectories steps).1 = .ok () →
        (disk.makeDirectories steps).2.Paved (downward steps)) := by
  fun_induction makeDirectories disk steps with
  | case1 steps missing more fault stopped outcome ih =>
    rw [outcome] at ih
    exact ⟨ih.1.trans (Grown.refl ..) (isPrefix_downward_above steps), by simp⟩
  | case2 steps missing more grown outcome ih =>
    rw [outcome] at ih
    obtain ⟨growth, paved⟩ := settle_grown grown steps
    exact ⟨ih.1.trans growth (isPrefix_downward_above steps), paved⟩
  | case3 steps missing none => exact ⟨Grown.refl .., by simp⟩
  | case4 steps other => exact settle_grown disk steps

theorem fits_of_isPrefix {root : Nat} {front steps : List String} (fits : Fits root steps)
    (part : front <+: steps) : Fits root front := by
  obtain ⟨rest, rfl⟩ := part
  unfold Fits checkText at fits ⊢
  simp only [List.any_append, Bool.or_eq_true, List.foldl_append] at fits ⊢
  have grows : ∀ (steps : List String) (size : Nat),
      size ≤ steps.foldl (fun size step => size + 1 + step.utf8ByteSize) size := by
    intro steps
    induction steps with
    | nil => simp
    | cons step others ih =>
      intro size
      exact le_trans (by omega) (ih (size + 1 + step.utf8ByteSize))
  split_ifs at fits with zero long
  rw [if_neg (fun zero' => zero (.inl zero')), if_neg]
  intro tooLong
  exact long (tooLong.trans (grows rest _))

theorem Filed.above {root : Nat} {steps : List String} (filed : Filed root steps)
    (more : Blobs.above steps ≠ []) : Filed root (Blobs.above steps) := by
  refine ⟨fits_of_isPrefix filed.fits (isPrefix_above steps), ?_, ?_⟩
  · exact (trimIdle_cases _).resolve_left more
  · intro name member
    exact filed.sizes name ((isPrefix_downward_above steps).subset member)

theorem makeDirectories_ok {steps : List String} (filed : Filed disk.rootLength steps)
    (free : disk.Unblocked (downward steps)) : (disk.makeDirectories steps).1 = .ok () := by
  have named : ∀ {steps}, Filed disk.rootLength steps → downward steps ≠ [] := by
    intro steps filed
    obtain ⟨front, last, -, -, named, -⟩ := filed.parts
    simp [named]
  fun_induction makeDirectories disk steps with
  | case1 steps missing more fault stopped outcome ih =>
    have success := ih (filed.above more) (free.above (isPrefix_downward_above steps))
    rw [outcome] at success
    contradiction
  | case2 steps missing more grown outcome ih =>
    obtain ⟨growth, paved⟩ := makeDirectories_grown disk (above steps)
    rw [outcome, downward_above] at growth paved
    refine settle_ok (growth.root ▸ filed) (paved rfl) fun bytes file => ?_
    exact free _ (named filed) List.prefix_rfl bytes (growth.file_iff.1 file)
  | case3 steps missing none =>
    -- without a directory above, the root is where the directory is made
    have top : disk.Paved (downward steps).dropLast := by
      rw [← downward_above, not_not.1 none]
      exact fun front some part => absurd (List.prefix_nil.1 part) some
    rw [makeDirectory_filed filed top] at missing
    cases found : disk.node? (downward steps) <;> simp [found] at missing
  | case4 steps other =>
    obtain ⟨front, last, parts, down, place, short, sizes⟩ := filed.parts
    have before : disk.Unblocked (downward front) :=
      free.above ⟨[last], place.symm⟩
    rcases approach_cases filed.fits parts sizes before with there | stopped
    · obtain ⟨-, -, paved, -⟩ := approach_ok there
      refine settle_ok filed ?_ (free _ (named filed) List.prefix_rfl)
      rw [place, List.dropLast_concat]
      exact paved
    · exact absurd (by rw [makeDirectory_eq, stopped]; rfl) other

/-! ## The directories above a path -/

theorem makeParents_grown (disk : Disk) (path : String) :
    Grown disk (disk.makeParents path).2 (names path).dropLast ∧
      ((disk.makeParents path).1 = .ok () →
        (disk.makeParents path).2.Paved (names path).dropLast) := by
  have place := downward_above (Text.segments path)
  rw [← names_eq] at place
  unfold makeParents
  cases steps : above (Text.segments path) with
  | nil =>
    rw [steps] at place
    rw [← place]
    exact ⟨Grown.refl .., fun _ front some part => absurd (List.prefix_nil.1 part) some⟩
  | cons first rest =>
    rw [steps] at place
    rw [← place]
    exact makeDirectories_grown disk (first :: rest)

theorem makeParents_ok {path : String} (filed : Filed disk.rootLength (Text.segments path))
    (free : disk.Unblocked (names path).dropLast) : (disk.makeParents path).1 = .ok () := by
  have place := downward_above (Text.segments path)
  rw [← names_eq] at place
  unfold makeParents
  cases steps : above (Text.segments path) with
  | nil => rfl
  | cons first rest =>
    rw [steps] at place
    refine makeDirectories_ok ?_ (place ▸ free)
    rw [← steps]
    exact filed.above (by simp [steps])

end Depot.Blobs.Disk
