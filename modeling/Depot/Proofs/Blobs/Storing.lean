import Depot.Proofs.Blobs.Growth
import Depot.Proofs.Text.Pieces

/-!
# Storing below a root

What a call on a disk did where it succeeded, and where it succeeds, in terms of the nodes at
the places of its paths.  A path can be stored at if its text is accepted, it ends by going
down and its names are short; the rest depends on the nodes above its place and at it.
-/

set_option autoImplicit false

namespace Depot.Blobs

open Disk

/-- The text of a path is accepted below a root of some length. -/
def Accepted (root : Nat) (path : String) : Prop :=
  isPlain path = true ∧ Fits root (Text.segments path)

/-- A content can be stored at a path below a root of some length, if nothing is in the way. -/
def Storable (root : Nat) (path : String) : Prop :=
  isPlain path = true ∧ Filed root (Text.segments path)

theorem Storable.accepted {root : Nat} {path : String} (storable : Storable root path) :
    Accepted root path := ⟨storable.1, storable.2.fits⟩

theorem names_ne_nil {path : String} (plain : isPlain path = true) : names path ≠ [] := by
  simp only [isPlain, Bool.and_eq_true, bne_iff_ne, ne_eq] at plain
  obtain ⟨⟨⟨-, filled⟩, moving⟩, -⟩ := plain
  cases steps : Text.segments path with
  | nil =>
    obtain ⟨piece, rest, pieces⟩ := Text.exists_cutAt '/' path.toList
    rw [List.map_eq_nil_iff.1 steps] at pieces
    cases pieces
  | cons first rest =>
    rw [steps] at filled moving
    have down : isIdle first = false := by
      simpa [isIdle] using And.intro (by simpa using filled) (by simpa using moving)
    simp [names, steps, down]

namespace Disk

variable {disk : Disk} {path : String} {bytes : ByteArray}

/-! ## Uploads -/

theorem writeFile_ok (written : (disk.writeFile path bytes).1 = .ok ()) :
    Filed disk.rootLength (Text.segments path) ∧ disk.Paved (names path).dropLast ∧
      disk.node? (names path) ≠ some .directory ∧
      (disk.writeFile path bytes).2 = disk.set (names path) (.file bytes) := by
  unfold writeFile at written ⊢
  cases placed : disk.placeToWrite (Text.segments path) with
  | error fault => simp [placed] at written
  | ok place =>
    obtain ⟨filed, paved, noDirectory, rfl⟩ := placeToWrite_ok_iff.1 placed
    exact ⟨filed, paved, noDirectory, rfl⟩

theorem writeFile_filed (filed : Filed disk.rootLength (Text.segments path))
    (paved : disk.Paved (names path).dropLast)
    (noDirectory : disk.node? (names path) ≠ some .directory) :
    disk.writeFile path bytes = (.ok (), disk.set (names path) (.file bytes)) := by
  rw [writeFile, placeToWrite_ok_iff.2 ⟨filed, paved, noDirectory, rfl⟩]
  rfl

theorem report_fst {result : Except DiskFault Unit × Disk} :
    (report result).1 = .ok () ↔ result.1 = .ok () := by
  obtain ⟨outcome, after⟩ := result
  cases outcome <;> simp [report]

theorem report_snd (result : Except DiskFault Unit × Disk) : (report result).2 = result.2 := by
  obtain ⟨outcome, after⟩ := result
  cases outcome <;> rfl

theorem upload_ok (stored : (disk.upload path bytes).1 = .ok ()) :
    Storable disk.rootLength path ∧ ∃ grown, Grown disk grown (names path).dropLast ∧
      grown.Paved (names path).dropLast ∧
      (disk.upload path bytes).2 = grown.set (names path) (.file bytes) := by
  obtain ⟨growth, paved⟩ := makeParents_grown disk path
  unfold upload at stored ⊢
  by_cases plain : isPlain path = true
  · rw [if_pos plain] at stored ⊢
    cases made : disk.makeParents path with
    | mk outcome grown =>
      rw [made] at stored growth paved
      cases outcome with
      | error fault => simp at stored
      | ok _ =>
        obtain ⟨filed, -, -, after⟩ := writeFile_ok (report_fst.1 stored)
        refine ⟨⟨plain, growth.root ▸ filed⟩, grown, growth, paved rfl, ?_⟩
        rw [← after]
        exact report_snd _
  · simp [plain] at stored

theorem upload_storable (storable : Storable disk.rootLength path)
    (free : disk.Unblocked (names path).dropLast)
    (noDirectory : disk.node? (names path) ≠ some .directory) :
    (disk.upload path bytes).1 = .ok () := by
  obtain ⟨plain, filed⟩ := storable
  obtain ⟨growth, paved⟩ := makeParents_grown disk path
  have success := makeParents_ok filed free
  unfold upload
  rw [if_pos plain]
  cases made : disk.makeParents path with
  | mk outcome grown =>
    rw [made] at growth paved success
    cases success
    have there := growth.noDirectory (names_ne_nil plain) noDirectory
    have written := @writeFile_filed grown path bytes (growth.root ▸ filed) (paved rfl) there
    simp only [written]
    rfl

/-- Whether something can be stored at a path below a fresh root does not depend on what it is,
and is a matter of the text of the path. -/
theorem storable_iff {root : Nat} {path : String} (bytes : ByteArray) :
    Storable root path ↔ (upload ⟨[], root⟩ path bytes).1 = .ok () := by
  refine ⟨fun storable => upload_storable storable ?_ ?_, fun stored => (upload_ok stored).1⟩
  · intro front some part bytes
    rw [node?_fresh root some]
    simp
  · rw [node?_fresh root (names_ne_nil storable.1)]
    simp

theorem upload_fresh {root : Nat} {path : String} (storable : Storable root path)
    (bytes : ByteArray) :
    ∃ tree, upload ⟨[], root⟩ path bytes = (.ok (), tree) ∧ tree.rootLength = root ∧
      tree.Paved (names path).dropLast ∧ tree.node? (names path) = some (.file bytes) := by
  have below := names_ne_nil storable.1
  have success := (storable_iff bytes).1 storable
  obtain ⟨-, grown, growth, paved, result⟩ := upload_ok success
  have absent : grown.node? (names path) ≠ some .directory := by
    apply growth.noDirectory below
    rw [node?_fresh root below]
    simp
  refine ⟨grown.set (names path) (.file bytes), Prod.ext success result, growth.root,
    paved.set below absent, ?_⟩
  rw [node?_set below, Function.update_self]

/-! ## Removals -/

theorem delete_ok (removed : (disk.delete path).1 = .ok ()) :
    Storable disk.rootLength path ∧ (disk.delete path).2 = disk.clear (names path) ∨
      disk.placeToRemove (Text.segments path) = .error .noEntry ∧ (disk.delete path).2 = disk := by
  unfold delete at removed ⊢
  by_cases plain : isPlain path = true
  · rw [if_pos plain] at removed ⊢
    cases placed : disk.placeToRemove (Text.segments path) with
    | ok place =>
      obtain ⟨filed, rfl⟩ := placeToRemove_ok placed
      exact .inl ⟨⟨plain, filed⟩, rfl⟩
    | error fault =>
      rw [placed] at removed
      cases fault
      case noEntry => exact .inr ⟨rfl, rfl⟩
      all_goals simp at removed
  · simp [plain] at removed

/-! ## Copies -/

theorem sourceBytes_ok : disk.sourceBytes path = .ok bytes ↔
    disk.find (Text.segments path) = .ok (.file bytes) := by
  unfold sourceBytes
  cases disk.find (Text.segments path) with
  | error fault => simp
  | ok node => cases node <;> simp

/-- What is left at the target of a copy: nothing but an empty file if it is the source too. -/
def copied (source target : String) (bytes : ByteArray) : ByteArray :=
  if names source = names target then ByteArray.empty else bytes

theorem copyFile_ok {source target : String} (plain : isPlain target = true)
    (success : (disk.copyFile source target).1 = .ok ()) :
    ∃ bytes, disk.find (Text.segments source) = .ok (.file bytes) ∧
      Filed disk.rootLength (Text.segments target) ∧
      (disk.copyFile source target).2.rootLength = disk.rootLength ∧
      (disk.copyFile source target).2.node? = Function.update disk.node? (names target)
        (some (.file (copied source target bytes))) := by
  have nodes := fun bytes => @node?_set disk _ (names_ne_nil plain) (.file bytes)
  unfold copyFile at success ⊢
  cases before : disk.sourceBytes source with
  | error fault => simp [before] at success
  | ok bytes =>
    rw [before] at success
    have found := sourceBytes_ok.1 before
    refine ⟨bytes, found, ?_⟩
    have first := @writeFile_ok disk target ByteArray.empty
    cases write : disk.writeFile target ByteArray.empty with
    | mk outcome emptied =>
      rw [write] at first success
      cases outcome with
      | error fault => simp at success
      | ok _ =>
        obtain ⟨filed, -, -, rfl⟩ := first rfl
        cases after : (disk.set (names target) (.file ByteArray.empty)).sourceBytes source with
        | error fault => simp [after] at success
        | ok left =>
          simp only [after] at success ⊢
          obtain ⟨-, -, -, second⟩ := writeFile_ok success
          have remains : left = copied source target bytes := by
            obtain ⟨-, -, old, -⟩ := find_ok found
            obtain ⟨-, -, new, -⟩ := find_ok (sourceBytes_ok.1 after)
            rw [← names_eq] at old new
            rw [nodes] at new
            unfold copied
            split_ifs with same
            · rw [same, Function.update_self] at new
              cases new
              rfl
            · rw [Function.update_of_ne same, old] at new
              cases new
              rfl
          refine ⟨filed, by rw [second]; rfl, ?_⟩
          rw [second, node?_set (names_ne_nil plain), nodes, Function.update_idem, remains]

theorem copy_ok {source target : String} (success : (disk.copy source target).1 = .ok ()) :
    Storable disk.rootLength target ∧ ∃ grown bytes,
      Grown disk grown (names target).dropLast ∧ grown.Paved (names target).dropLast ∧
      Storable disk.rootLength source ∧ grown.node? (names source) = some (.file bytes) ∧
      (disk.copy source target).2.rootLength = disk.rootLength ∧
      (disk.copy source target).2.node? = Function.update grown.node? (names target)
        (some (.file (copied source target bytes))) := by
  obtain ⟨growth, paved⟩ := makeParents_grown disk target
  unfold copy at success ⊢
  by_cases plainSource : isPlain source = true
  · by_cases plainTarget : isPlain target = true
    · simp only [plainSource, plainTarget, Bool.not_true, Bool.false_eq_true, if_false] at success ⊢
      cases made : disk.makeParents target with
      | mk outcome grown =>
        rw [made] at success growth paved
        cases outcome with
        | error fault => simp at success
        | ok _ =>
          obtain ⟨bytes, found, filed, root, nodes⟩ := copyFile_ok plainTarget (report_fst.1 success)
          obtain ⟨-, -, old, source⟩ := find_ok found
          simp only [report_snd]
          rw [growth.root] at source filed root
          exact ⟨⟨plainTarget, filed⟩, grown, bytes, growth, paved rfl,
            ⟨plainSource, source bytes rfl⟩, old, root, nodes⟩
    · simp [plainSource, plainTarget] at success
  · simp [plainSource] at success

theorem copy_storable {source target : String} (readable : Storable disk.rootLength source)
    (writable : Storable disk.rootLength target) (paved : disk.Paved (names source).dropLast)
    (there : disk.node? (names source) = some (.file bytes))
    (free : disk.Unblocked (names target).dropLast)
    (noDirectory : disk.node? (names target) ≠ some .directory) :
    (disk.copy source target).1 = .ok () := by
  obtain ⟨growth, way⟩ := makeParents_grown disk target
  have success := makeParents_ok writable.2 free
  unfold copy
  simp only [readable.1, writable.1, Bool.not_true, Bool.false_eq_true, if_false]
  cases made : disk.makeParents target with
  | mk outcome grown =>
    rw [made] at growth way success
    cases success
    have below := names_ne_nil writable.1
    have filed : Filed grown.rootLength (Text.segments target) := growth.root ▸ writable.2
    have absent := growth.noDirectory below noDirectory
    have nodes := @node?_set grown _ below (.file ByteArray.empty)
    have found : grown.find (Text.segments source) = .ok (.file bytes) := by
      rw [find_filed (growth.root ▸ readable.2) (growth.paved paved), ← names_eq,
        growth.keeps there]
    -- emptying the target leaves a file at the source
    have again : ∃ left, (grown.set (names target) (.file ByteArray.empty)).find
        (Text.segments source) = .ok (.file left) := by
      rw [find_filed (growth.root ▸ readable.2) ((growth.paved paved).set below absent), ← names_eq,
        nodes]
      by_cases same : names source = names target
      · exact ⟨ByteArray.empty, by rw [same, Function.update_self]⟩
      · exact ⟨bytes, by rw [Function.update_of_ne same, growth.keeps there]⟩
    obtain ⟨left, refound⟩ := again
    have second := @writeFile_filed (grown.set (names target) (.file ByteArray.empty)) target left
      filed ((way rfl).set below absent) (by rw [nodes, Function.update_self]; simp)
    rw [report_fst, copyFile, sourceBytes_ok.2 found, writeFile_filed filed (way rfl) absent]
    simp only [sourceBytes_ok.2 refound, second]

/-! ## Reading -/

theorem read_file (plain : isPlain path = true)
    (found : disk.find (Text.segments path) = .ok (.file bytes)) :
    disk.read path = .ok (some bytes) ∧ disk.contains path = .ok true := by
  simp [read, contains, readFile, plain, found]

theorem read_none (plain : isPlain path = true)
    (missing : disk.find (Text.segments path) = .error .noEntry) :
    disk.read path = .ok none ∧ disk.contains path = .ok false := by
  simp [read, contains, readFile, plain, missing]

theorem read_some (found : disk.read path = .ok (some bytes)) :
    isPlain path = true ∧ disk.find (Text.segments path) = .ok (.file bytes) := by
  unfold read readFile at found
  by_cases plain : isPlain path = true
  · refine ⟨plain, ?_⟩
    rw [if_pos plain] at found
    cases outcome : disk.find (Text.segments path) with
    | error fault => cases fault <;> simp [outcome] at found
    | ok node =>
      cases node with
      | directory => simp [outcome] at found
      | file other => simpa [outcome] using found
  · simp [plain] at found

theorem contains_true_iff : disk.contains path = .ok true ↔
    isPlain path = true ∧ ∃ node, disk.find (Text.segments path) = .ok node := by
  unfold contains
  by_cases plain : isPlain path = true
  · cases outcome : disk.find (Text.segments path) with
    | error fault => cases fault <;> simp [plain]
    | ok node => simp [plain]
  · simp [plain]

end Disk

end Depot.Blobs
