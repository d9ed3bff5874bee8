import Depot.Proofs.Blobs.Refinement

/-!
# No path leads out of the root

Whether a path is accepted is told by its text: it is not empty, neither a slash nor a step in
place stands in front, and there is no step up in it.  Whoever follows such a path down from the
root stays below the root on every step, and what a call changes lies on that way.  A call with
any other path is refused before it does anything.
-/

set_option autoImplicit false

namespace Depot.Blobs

/-! ## Texts of accepted paths -/

/-- A path that leads from the root into it: what must not stand in its text. -/
structure Inward (path : String) : Prop where
  filled : path ≠ ""
  relative : ¬ "/".toList <+: path.toList
  leaving : ¬ "./".toList <+: (path ++ "/").toList
  level : ¬ "/../".toList <:+: ("/" ++ path ++ "/").toList

theorem head?_segments_eq_empty_iff {path : String} :
    (Text.segments path).head? = some "" ↔ path = "" ∨ "/".toList <+: path.toList := by
  rw [Text.head?_segments_iff]
  cases whole : path.toList with
  | nil => simp [← String.toList_inj, whole]
  | cons c cs => simp [← String.toList_inj, whole]

theorem isPlain_iff {path : String} : isPlain path = true ↔ Inward path := by
  have empty : path.isEmpty = true ↔ path = "" := String.isEmpty_iff
  have front := @head?_segments_eq_empty_iff path
  have idle := @Text.head?_segments_iff path "."
  have up := @Text.mem_segments_iff path ".."
  simp only [isPlain, Bool.and_eq_true, Bool.not_eq_true', bne_iff_ne, ne_eq,
    ← Bool.not_eq_true, empty, front, idle, List.contains_iff_mem, up]
  constructor
  · rintro ⟨⟨⟨filled, relative⟩, leaving⟩, level⟩
    exact ⟨filled, fun slash => relative (.inr slash), fun dot => leaving ⟨by decide, dot⟩,
      fun dots => level ⟨by decide, dots⟩⟩
  · rintro ⟨filled, relative, leaving, level⟩
    exact ⟨⟨⟨filled, fun bad => bad.elim filled relative⟩, fun bad => leaving bad.2⟩,
      fun bad => level bad.2⟩

instance (path : String) : Decidable (Inward path) := decidable_of_iff _ isPlain_iff

example : Inward "a/./b" ∧ ¬ Inward "./a/b" := by decide

/-! ## Parts of paths -/

/-- What a path is made of. -/
inductive Part
  | root
  | here
  | up
  | down (name : String)

def part? (step : String) : Option Part :=
  if isIdle step then none else if step = ".." then some .up else some (.down step)

/-- The part that a path has in front of its other steps: only there a slash or a step in place
counts. -/
def frontPart? (path : String) : Option Part :=
  if path.toList.head? = some '/' then some .root
  else if (Text.segments path).head? = some "." then some .here else none

/-- The parts of a path, one after the other. -/
def parts (path : String) : List Part :=
  (frontPart? path).toList ++ (Text.segments path).filterMap part?

theorem frontPart?_eq_none_iff {path : String} :
    frontPart? path = none ↔
      ¬ "/".toList <+: path.toList ∧ ¬ "./".toList <+: (path ++ "/").toList := by
  have slash : path.toList.head? = some '/' ↔ "/".toList <+: path.toList := by
    cases path.toList <;> simp [eq_comm]
  have dot : (Text.segments path).head? = some "." ↔ "./".toList <+: (path ++ "/").toList := by
    rw [Text.head?_segments_iff]
    exact and_iff_right (by decide)
  rw [← slash, ← dot, frontPart?]
  split_ifs with first second
  · simp [first]
  · simp [second]
  · simp [first, second]

theorem part?_up {step : String} : part? step = some .up ↔ step = ".." := by
  unfold part?
  split_ifs with idle up
  · simp only [false_iff]
    rintro rfl
    exact absurd idle (by decide)
  · simp [up]
  · simp [up]

/-- A path is accepted if it is not empty and each part of it leads down. -/
theorem inward_iff_parts {path : String} :
    Inward path ↔ path ≠ "" ∧ ∀ part ∈ parts path, ∃ name, part = .down name := by
  have front : (∀ part ∈ (frontPart? path).toList, ∃ name, part = .down name) ↔
      frontPart? path = none := by
    unfold frontPart?
    split_ifs <;> simp
  have steps : (∀ part ∈ (Text.segments path).filterMap part?, ∃ name, part = .down name) ↔
      ".." ∉ Text.segments path := by
    simp only [List.mem_filterMap, forall_exists_index, and_imp]
    constructor
    · intro down up
      obtain ⟨name, bad⟩ := down .up ".." up (part?_up.2 rfl)
      cases bad
    · intro level part step member stands
      unfold part? at stands
      split_ifs at stands with idle up
      · exact absurd (up ▸ member) level
      · exact ⟨step, (Option.some.inj stands).symm⟩
  have level : ".." ∉ Text.segments path ↔
      ¬ "/../".toList <:+: ("/" ++ path ++ "/").toList := by
    rw [Text.mem_segments_iff]
    exact not_congr (and_iff_right (by decide))
  simp only [parts, List.mem_append, or_imp, forall_and, front, steps, frontPart?_eq_none_iff, level]
  exact ⟨fun ⟨filled, relative, leaving, flat⟩ => ⟨filled, ⟨relative, leaving⟩, flat⟩,
    fun ⟨filled, ⟨relative, leaving⟩, flat⟩ => ⟨filled, relative, leaving, flat⟩⟩

/-! ## Following a path -/

/-- The place that a step leads to: a step up takes the last name away, and at the top it stays. -/
def stepFrom (place : List String) (step : String) : List String :=
  if isIdle step then place else if step = ".." then place.dropLast else place ++ [step]

/-- The place that steps lead to, wherever the tree is. -/
def follow (place : List String) (steps : List String) : List String := steps.foldl stepFrom place

theorem follow_level {steps : List String} (level : ".." ∉ steps) (place : List String) :
    follow place steps = place ++ downward steps := by
  induction steps generalizing place with
  | nil => simp [follow, downward]
  | cons step rest ih =>
    simp only [List.mem_cons, not_or] at level
    have later := ih level.2 (stepFrom place step)
    rw [follow, List.foldl_cons]
    refine later.trans ?_
    cases idle : isIdle step with
    | true => simp [stepFrom, downward, idle]
    | false => simp [stepFrom, downward, idle, Ne.symm level.1]

/-- All places on the way lie below a root, or are the root itself, and the last one lies below. -/
structure StaysBelow (root : List String) (path : String) : Prop where
  onWay : ∀ front, front <+: Text.segments path → root <+: follow root front
  strictly : follow root (Text.segments path) ≠ root

theorem Inward.level_segments {path : String} (inward : Inward path) :
    ".." ∉ Text.segments path := fun member => inward.level (Text.mem_segments_iff.1 member).2

theorem Inward.follow_eq {path : String} (inward : Inward path) (root : List String) :
    follow root (Text.segments path) = root ++ names path :=
  follow_level inward.level_segments root

theorem Inward.staysBelow {path : String} (inward : Inward path) (root : List String) :
    StaysBelow root path where
  onWay front part := by
    rw [follow_level (fun up => inward.level_segments (part.subset up)) root]
    exact List.prefix_append _ _
  strictly same := by
    rw [inward.follow_eq] at same
    exact names_ne_nil (isPlain_iff.2 inward) (by simpa using same)

/-! ## What a call touches -/

namespace Disk

variable {disk : Disk} {path : String} {place : List String}

theorem makeParents_elsewhere (elsewhere : ¬ place <+: names path) :
    (disk.makeParents path).2.node? place = disk.node? place := by
  rcases (makeParents_grown disk path).1.node place with same | ⟨-, -, part⟩
  · exact same
  · exact absurd (part.trans (List.dropLast_prefix _)) elsewhere

theorem writeFile_elsewhere (plain : isPlain path = true) (bytes : ByteArray)
    (elsewhere : ¬ place <+: names path) :
    (disk.writeFile path bytes).2.node? place = disk.node? place := by
  unfold writeFile
  cases placed : disk.placeToWrite (Text.segments path) with
  | error fault => rfl
  | ok spot =>
    obtain ⟨-, -, -, rfl⟩ := placeToWrite_ok_iff.1 placed
    have other : place ≠ names path := fun same => elsewhere (same ▸ List.prefix_rfl)
    exact (congrFun (node?_set (names_ne_nil plain) _) place).trans (Function.update_of_ne other ..)

theorem upload_elsewhere (bytes : ByteArray) (elsewhere : ¬ place <+: names path) :
    (disk.upload path bytes).2.node? place = disk.node? place := by
  have grown := @makeParents_elsewhere disk path place elsewhere
  unfold upload
  by_cases plain : isPlain path = true
  · rw [if_pos plain]
    cases made : disk.makeParents path with
    | mk outcome grownDisk =>
      rw [made] at grown
      cases outcome with
      | error fault => exact grown
      | ok _ =>
        dsimp only
        rw [report_snd]
        exact (writeFile_elsewhere plain bytes elsewhere).trans grown
  · rw [if_neg plain]

theorem delete_elsewhere (elsewhere : ¬ place <+: names path) :
    (disk.delete path).2.node? place = disk.node? place := by
  unfold delete
  by_cases plain : isPlain path = true
  · rw [if_pos plain]
    cases placed : disk.placeToRemove (Text.segments path) with
    | error fault => cases fault <;> rfl
    | ok spot =>
      obtain ⟨-, rfl⟩ := placeToRemove_ok placed
      have other : place ≠ names path := fun same => elsewhere (same ▸ List.prefix_rfl)
      exact (congrFun (node?_clear (names_ne_nil plain)) place).trans (Function.update_of_ne other ..)
  · rw [if_neg plain]

theorem copyFile_elsewhere {source : String} (plain : isPlain path = true)
    (elsewhere : ¬ place <+: names path) :
    (disk.copyFile source path).2.node? place = disk.node? place := by
  have emptying := @writeFile_elsewhere disk path place plain ByteArray.empty elsewhere
  unfold copyFile
  cases disk.sourceBytes source with
  | error fault => rfl
  | ok bytes =>
    cases written : disk.writeFile path ByteArray.empty with
    | mk outcome emptied =>
      rw [written] at emptying
      cases outcome with
      | error fault => exact emptying
      | ok _ =>
        dsimp only
        cases emptied.sourceBytes source with
        | error fault => exact emptying
        | ok left => exact (writeFile_elsewhere plain left elsewhere).trans emptying

theorem copy_elsewhere {source : String} (elsewhere : ¬ place <+: names path) :
    (disk.copy source path).2.node? place = disk.node? place := by
  have grown := @makeParents_elsewhere disk path place elsewhere
  unfold copy
  by_cases plainSource : isPlain source = true
  · by_cases plain : isPlain path = true
    · simp only [plainSource, plain, Bool.not_true, Bool.false_eq_true, if_false]
      cases made : disk.makeParents path with
      | mk outcome grownDisk =>
        rw [made] at grown
        cases outcome with
        | error fault => exact grown
        | ok _ =>
          dsimp only
          rw [report_snd]
          exact (copyFile_elsewhere plain elsewhere).trans grown
    · simp [plainSource, plain]
  · simp [plainSource]

end Disk

/-! ## What is refused -/

/-- A result that is not the refusal of a request, whatever else it is. -/
def Unrefused {α : Type} (result : Except BackendFailure α) : Prop :=
  ∀ cause, result ≠ .error (.refused cause)

namespace Disk

variable {disk : Disk} {path : String}

theorem unrefused_fault {α : Type} (fault : DiskFault) :
    Unrefused (.error fault.failure : Except BackendFailure α) := by
  rintro cause ⟨⟩

theorem unrefused_ok {α : Type} (value : α) : Unrefused (.ok value : Except BackendFailure α) := by
  rintro cause ⟨⟩

theorem unrefused_report (result : Except DiskFault Unit × Disk) : Unrefused (report result).1 := by
  obtain ⟨outcome, after⟩ := result
  cases outcome with
  | error fault => exact unrefused_fault fault
  | ok _ => exact unrefused_ok ()

theorem upload_unrefused (plain : isPlain path = true) (bytes : ByteArray) :
    Unrefused (disk.upload path bytes).1 := by
  rw [upload, if_pos plain]
  cases disk.makeParents path with
  | mk outcome grown =>
    cases outcome with
    | error fault => exact unrefused_fault fault
    | ok _ => exact unrefused_report _

theorem delete_unrefused (plain : isPlain path = true) : Unrefused (disk.delete path).1 := by
  rw [delete, if_pos plain]
  cases disk.placeToRemove (Text.segments path) with
  | ok place => exact unrefused_ok ()
  | error fault =>
    cases fault
    case noEntry => exact unrefused_ok ()
    all_goals exact unrefused_fault _

theorem contains_unrefused (plain : isPlain path = true) : Unrefused (disk.contains path) := by
  rw [contains, if_pos plain]
  cases disk.find (Text.segments path) with
  | ok node => exact unrefused_ok true
  | error fault =>
    cases fault
    case noEntry => exact unrefused_ok false
    all_goals exact unrefused_fault _

theorem read_unrefused (plain : isPlain path = true) : Unrefused (disk.read path) := by
  rw [read, if_pos plain]
  cases disk.readFile path with
  | ok bytes => exact unrefused_ok (some bytes)
  | error fault =>
    cases fault
    case noEntry => exact unrefused_ok none
    all_goals exact unrefused_fault _

theorem copy_unrefused {source : String} (plainSource : isPlain source = true)
    (plain : isPlain path = true) : Unrefused (disk.copy source path).1 := by
  simp only [copy, plainSource, plain, Bool.not_true, Bool.false_eq_true, if_false]
  cases disk.makeParents path with
  | mk outcome grown =>
    cases outcome with
    | error fault => exact unrefused_fault fault
    | ok _ => exact unrefused_report _

end Disk

/-! ## Calls -/

/-- A call about paths to a store on disk. -/
inductive PathCall
  | upload (path : String) (content : Content)
  | delete (path : String)
  | contains (path : String)
  | read (path : String)
  | signedUrl (path : String) (book : AddressBook) (now : Instant) (minutes : Nat)
  | copy (source target : String)

namespace PathCall

/-- The paths of a call, in the order in which they are checked. -/
def paths : PathCall → List String
  | upload path _ => [path]
  | delete path => [path]
  | contains path => [path]
  | read path => [path]
  | signedUrl path .. => [path]
  | copy source target => [source, target]

/-- Whether a call on a disk succeeds, and the disk that it leaves. -/
def perform (tree : Disk) : PathCall → Except BackendFailure Unit × Store
  | upload path content => (Store.disk tree).upload path content
  | delete path => (Store.disk tree).delete path
  | contains path => (((Store.disk tree).contains path).map fun _ => (), .disk tree)
  | read path => ((tree.read path).map fun _ => (), .disk tree)
  | signedUrl path book now minutes =>
    (((Store.disk tree).signedUrl book now path minutes).map fun _ => (), .disk tree)
  | copy source target => (Store.disk tree).copy source target

section Perform

variable {tree : Disk} {call : PathCall}

/-- The first path that does not lead inward has the call refused at once. -/
theorem perform_refused {path : String}
    (first : call.paths.find? (fun path => ¬ Inward path) = some path) :
    call.perform tree = (.error (Disk.refusal path), .disk tree) := by
  have single : ∀ other, [other].find? (fun path => ¬ Inward path) = some path →
      other = path ∧ isPlain path = false := by
    intro other found
    obtain rfl : path = other := List.mem_singleton.1 (List.mem_of_find?_eq_some found)
    have bad := List.find?_some found
    exact ⟨rfl, by simpa [← isPlain_iff] using bad⟩
  cases call with
  | upload other content =>
    obtain ⟨rfl, bad⟩ := single other first
    simp [perform, Store.upload_disk, Disk.upload, bad]
  | delete other =>
    obtain ⟨rfl, bad⟩ := single other first
    simp [perform, Store.delete_disk, Disk.delete, bad]
  | contains other =>
    obtain ⟨rfl, bad⟩ := single other first
    simp [perform, Store.contains, Disk.contains, bad, Except.map]
  | read other =>
    obtain ⟨rfl, bad⟩ := single other first
    simp [perform, Disk.read, bad, Except.map]
  | signedUrl other book now minutes =>
    obtain ⟨rfl, bad⟩ := single other first
    simp [perform, Store.signedUrl, bad, Except.map]
  | copy source target =>
    by_cases inward : Inward source
    · have plain := isPlain_iff.2 inward
      rw [paths, List.find?_cons_of_neg (by simpa using inward)] at first
      obtain ⟨rfl, bad⟩ := single target first
      simp [perform, Store.copy_disk, Disk.copy, plain, bad]
    · have bad : isPlain source = false := by simpa [← isPlain_iff] using inward
      rw [paths, List.find?_cons_of_pos (by simpa using inward), Option.some.injEq] at first
      subst first
      simp [perform, Store.copy_disk, Disk.copy, bad]

theorem perform_unrefused (inward : ∀ path ∈ call.paths, Inward path) :
    Unrefused (call.perform tree).1 := by
  have mapped : ∀ {α : Type} {result : Except BackendFailure α}, Unrefused result →
      Unrefused (result.map fun _ => ()) := by
    rintro α (failure | value) well cause same
    · exact well cause (by simpa [Except.map] using same)
    · cases same
  cases call with
  | upload path content =>
    rw [perform, Store.upload_disk]
    exact Disk.upload_unrefused (isPlain_iff.2 (inward path (by simp [paths]))) _
  | delete path =>
    rw [perform, Store.delete_disk]
    exact Disk.delete_unrefused (isPlain_iff.2 (inward path (by simp [paths])))
  | contains path =>
    exact mapped (Disk.contains_unrefused (isPlain_iff.2 (inward path (by simp [paths]))))
  | read path => exact mapped (Disk.read_unrefused (isPlain_iff.2 (inward path (by simp [paths]))))
  | signedUrl path book now minutes =>
    have plain := isPlain_iff.2 (inward path (by simp [paths]))
    refine mapped ?_
    rw [Store.signedUrl, if_pos plain]
    exact Disk.unrefused_ok _
  | copy source target =>
    rw [perform, Store.copy_disk]
    exact Disk.copy_unrefused (isPlain_iff.2 (inward source (by simp [paths])))
      (isPlain_iff.2 (inward target (by simp [paths])))

theorem perform_elsewhere : ∃ after, (call.perform tree).2 = .disk after ∧
    ∀ place, (∀ path ∈ call.paths, ¬ place <+: names path) → after.node? place = tree.node? place := by
  cases call with
  | upload path content =>
    rw [perform, Store.upload_disk]
    exact ⟨_, rfl, fun place off => Disk.upload_elsewhere _ (off path (by simp [paths]))⟩
  | delete path =>
    rw [perform, Store.delete_disk]
    exact ⟨_, rfl, fun place off => Disk.delete_elsewhere (off path (by simp [paths]))⟩
  | contains path => exact ⟨tree, rfl, fun place off => rfl⟩
  | read path => exact ⟨tree, rfl, fun place off => rfl⟩
  | signedUrl path book now minutes => exact ⟨tree, rfl, fun place off => rfl⟩
  | copy source target =>
    rw [perform, Store.copy_disk]
    exact ⟨_, rfl, fun place off => Disk.copy_elsewhere (off target (by simp [paths]))⟩

end Perform

end PathCall

/-- What is true of every call about paths, whatever their texts are. -/
structure Confined (tree : Disk) (call : PathCall) : Prop where
  accepted_iff : ∀ path ∈ call.paths,
    Inward path ↔ path ≠ "" ∧ ∀ part ∈ parts path, ∃ name, part = .down name
  below : ∀ path ∈ call.paths, Inward path → ∀ root, StaysBelow root path
  refused_iff : (∃ cause, (call.perform tree).1 = .error (.refused cause)) ↔
    ∃ path ∈ call.paths, ¬ Inward path
  unchanged : ∀ path, call.paths.find? (fun path => ¬ Inward path) = some path →
    call.perform tree = (.error (Disk.refusal path), .disk tree)
  touched : ∃ after, (call.perform tree).2 = .disk after ∧
    ∀ place, after.node? place ≠ tree.node? place →
      ∃ path ∈ call.paths, Inward path ∧ place <+: follow [] (Text.segments path)

/-- A call is refused exactly if one of its paths does not lead inward, and then it changes
nothing; otherwise its paths stay below the root, and so does all that it touches. -/
theorem calls_confined (tree : Disk) (call : PathCall) : Confined tree call := by
  by_cases bad : ∃ path ∈ call.paths, ¬ Inward path
  · obtain ⟨path, member, outward⟩ := bad
    cases first : call.paths.find? (fun path => ¬ Inward path) with
    | none =>
      have inward := List.find?_eq_none.1 first path member
      exact absurd outward (by simpa using inward)
    | some other =>
      have refused := @PathCall.perform_refused tree call other first
      constructor
      · exact fun _ _ => inward_iff_parts
      · exact fun _ _ inward => inward.staysBelow
      · exact iff_of_true ⟨_, congrArg Prod.fst refused⟩ ⟨path, member, outward⟩
      · intro found same
        obtain rfl : other = found := Option.some.inj (first.symm.trans same)
        exact refused
      · exact ⟨tree, congrArg Prod.snd refused, fun place moved => absurd rfl moved⟩
  · have inward : ∀ path ∈ call.paths, Inward path := by simpa using bad
    obtain ⟨after, left, kept⟩ := @PathCall.perform_elsewhere tree call
    constructor
    · exact fun _ _ => inward_iff_parts
    · exact fun _ _ inward => inward.staysBelow
    · refine iff_of_false ?_ bad
      rintro ⟨cause, refused⟩
      exact PathCall.perform_unrefused inward cause refused
    · intro path found
      exact absurd ⟨path, List.mem_of_find?_eq_some found, by simpa using List.find?_some found⟩ bad
    · refine ⟨after, left, fun place moved => ?_⟩
      by_contra off
      refine moved (kept place fun path member part => off ⟨path, member, inward path member, ?_⟩)
      rwa [(inward path member).follow_eq, List.nil_append]

end Depot.Blobs
