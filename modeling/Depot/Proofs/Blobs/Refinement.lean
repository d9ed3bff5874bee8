import Depot.Blobs.Store
import Depot.Proofs.Blobs.Storing
import Depot.Proofs.Holdings

/-!
# Contents on disk against contents in memory

A store in memory tells written paths apart as texts, a store on disk by the places they lead
to.  So both show the same after the same calls as long as no path that is in use leads to the
place of another one, or to a directory above it, and exactly as long.
-/

set_option autoImplicit false

namespace Depot.Blobs

open Disk

/-! ## Calls on a store -/

/-- A call that changes what a store holds. -/
inductive Edit
  | upload (path : Files.Path) (content : Content)
  | delete (path : Files.Path)
  | copy (source target : Files.Path)

namespace Edit

def perform (store : Store) : Edit → Except BackendFailure Unit × Store
  | upload path content => store.upload path.text content
  | delete path => store.delete path.text
  | copy source target => store.copy source.text target.text

/-- The paths of a call are among some paths, and it is no copy of a content onto itself. -/
def Over (known : Set Files.Path) : Edit → Prop
  | upload path _ => path ∈ known
  | delete path => path ∈ known
  | copy source target => source ∈ known ∧ target ∈ known ∧ source ≠ target

end Edit

/-- The store that is left after calls, whether or not each of them succeeds. -/
def after (store : Store) (edits : List Edit) : Store :=
  edits.foldl (fun store edit => (edit.perform store).2) store

/-- Every one of the calls succeeds. -/
def Works : Store → List Edit → Prop
  | _, [] => True
  | store, edit :: rest =>
    (edit.perform store).1 = .ok () ∧ Works (edit.perform store).2 rest

namespace Store

theorem upload_disk (tree : Disk) (path : String) (content : Content) :
    (disk tree).upload path content =
      ((tree.upload path content.bytes).1, disk (tree.upload path content.bytes).2) := by
  simp only [upload]

theorem delete_disk (tree : Disk) (path : String) :
    (disk tree).delete path = ((tree.delete path).1, disk (tree.delete path).2) := by
  simp only [delete]

theorem copy_disk (tree : Disk) (source target : String) :
    (disk tree).copy source target =
      ((tree.copy source target).1, disk (tree.copy source target).2) := by
  simp only [copy]

end Store

def Store.bytes? : Store → String → Except BackendFailure (Option ByteArray)
  | memory blobs, path => .ok ((blobs.get? path).map (·.bytes))
  | disk tree, path => tree.read path

/-- Two stores show the same at a path, where one that cannot be asked for it shows nothing.
At a path that can be stored at, both can be asked. -/
structure Agree (root : Nat) (left right : Store) (path : String) : Prop where
  bytes : ∀ bytes, left.bytes? path = .ok (some bytes) ↔ right.bytes? path = .ok (some bytes)
  presence : left.contains path = .ok true ↔ right.contains path = .ok true
  exact : Storable root path →
    left.bytes? path = right.bytes? path ∧ left.contains path = right.contains path

/-- A content stored at the first path shows at the second one too: there as the same content,
or as a directory above it. -/
def Shows (root : Nat) (first second : String) : Prop :=
  Storable root first ∧
    (Storable root second ∧ names second = names first ∨
      Accepted root second ∧ names second <+: names first ∧ names second ≠ names first)

/-! ## What both stores hold -/

/-- A disk and a memory hold the same at known paths, below directories that lead to them. -/
structure Mirrors (known : Set Files.Path) (root : Nat) (tree : Disk) (blobs : Memory) : Prop where
  base : tree.rootLength = root
  held : ∀ key content, blobs.get? key = some content →
    ∃ path ∈ known, path.text = key ∧ Storable root key ∧
      tree.node? (names key) = some (.file content.bytes)
  node : ∀ place node, place ≠ [] → tree.node? place = some node →
    ∃ path ∈ known, Storable root path.text ∧
      (place = names path.text ∧
          (∃ content, blobs.get? path.text = some content ∧ node = .file content.bytes) ∨
        place <+: (names path.text).dropLast ∧ node = .directory)
  above : ∀ place node, tree.node? place = some node → tree.Paved place.dropLast

/-- No content at a known path shows at another one. -/
def Apart (known : Set Files.Path) (root : Nat) : Prop :=
  ∀ first ∈ known, ∀ second ∈ known, first ≠ second → ¬ Shows root first.text second.text

variable {known : Set Files.Path} {root : Nat} {tree : Disk} {blobs : Memory}

theorem Apart.eq_of_isPrefix (apart : Apart known root) {first second : Files.Path}
    (one : first ∈ known) (two : second ∈ known) (lower : Storable root first.text)
    (upper : Storable root second.text) (part : names second.text <+: names first.text) :
    first = second := by
  by_contra different
  refine apart first one second two different ⟨lower, ?_⟩
  by_cases same : names second.text = names first.text
  · exact .inl ⟨upper, same⟩
  · exact .inr ⟨upper.accepted, part, same⟩

theorem mirrors_fresh (known : Set Files.Path) (root : Nat) :
    Mirrors known root ⟨[], root⟩ {} := by
  refine ⟨rfl, fun key content held => ?_, fun place node below found => ?_, ?_⟩
  · simp [Memory.get?] at held
  · rw [node?_fresh root below] at found
    contradiction
  · intro place node found front some part
    cases place with
    | nil => exact absurd (List.prefix_nil.1 part) some
    | cons name rest =>
      rw [node?_fresh root (List.cons_ne_nil _ _)] at found
      contradiction

/-- Directories on the way to a known path change nothing that is held. -/
theorem Mirrors.grow (mirrors : Mirrors known root tree blobs) {grown : Disk} {path : Files.Path}
    (member : path ∈ known) (storable : Storable root path.text)
    (growth : Grown tree grown (names path.text).dropLast)
    (paved : grown.Paved (names path.text).dropLast) : Mirrors known root grown blobs where
  base := growth.root.trans mirrors.base
  held := by
    intro key content held
    obtain ⟨holder, holds, same, fits, there⟩ := mirrors.held key content held
    exact ⟨holder, holds, same, fits, growth.keeps there⟩
  node := by
    intro place node below found
    rcases growth.node place with same | ⟨-, made, part⟩
    · rw [same] at found
      exact mirrors.node place node below found
    · rw [made] at found
      cases found
      exact ⟨path, member, storable, .inr ⟨part, rfl⟩⟩
  above := by
    intro place node found
    rcases growth.node place with same | ⟨-, made, part⟩
    · rw [same] at found
      exact growth.paved (mirrors.above place node found)
    · exact paved.above ((List.dropLast_prefix place).trans part)

theorem Mirrors.exists_isPrefix (mirrors : Mirrors known root tree blobs)
    {place : List String} {node : Node} (below : place ≠ []) (found : tree.node? place = some node) :
    ∃ path ∈ known, Storable root path.text ∧ place <+: names path.text := by
  obtain ⟨path, member, storable, ⟨here, -⟩ | ⟨part, -⟩⟩ := mirrors.node place node below found
  · exact ⟨path, member, storable, by rw [here]⟩
  · exact ⟨path, member, storable, part.trans (List.dropLast_prefix _)⟩

theorem Mirrors.update (mirrors : Mirrors known root tree blobs) (apart : Apart known root)
    {path : Files.Path} (member : path ∈ known) (storable : Storable root path.text)
    (content : Option Content) {changed : Disk} {others : Memory}
    (paved : content ≠ none → tree.Paved (names path.text).dropLast)
    (length : changed.rootLength = tree.rootLength)
    (nodes : changed.node? = Function.update tree.node? (names path.text)
      (content.map fun content => .file content.bytes))
    (contents : others.get? = Function.update blobs.get? path.text content) :
    Mirrors known root changed others where
  base := length.trans mirrors.base
  held := by
    intro key other held
    rw [contents] at held
    by_cases same : key = path.text
    · rw [same, Function.update_self] at held
      refine ⟨path, member, same.symm, same ▸ storable, ?_⟩
      rw [nodes, same, Function.update_self, held]
      rfl
    · rw [Function.update_of_ne same] at held
      obtain ⟨holder, holds, written, fits, there⟩ := mirrors.held key other held
      have elsewhere : names key ≠ names path.text := by
        intro equal
        rw [← written] at equal fits
        have one := apart.eq_of_isPrefix holds member fits storable (by rw [equal])
        exact same (written.symm.trans (congrArg Files.Path.text one))
      refine ⟨holder, holds, written, fits, ?_⟩
      rw [nodes, Function.update_of_ne elsewhere, there]
  node := by
    intro place node below found
    rw [nodes] at found
    by_cases here : place = names path.text
    · rw [here, Function.update_self] at found
      obtain ⟨held, put, made⟩ := Option.map_eq_some_iff.1 found
      refine ⟨path, member, storable, .inl ⟨here, held, ?_, made.symm⟩⟩
      rw [contents, Function.update_self, put]
    · rw [Function.update_of_ne here] at found
      obtain ⟨holder, holds, fits, ⟨there, held, same, file⟩ | way⟩ :=
        mirrors.node place node below found
      · have other : holder.text ≠ path.text := by
          intro equal
          rw [equal] at there
          exact here there
        refine ⟨holder, holds, fits, .inl ⟨there, held, ?_, file⟩⟩
        rw [contents, Function.update_of_ne other, same]
      · exact ⟨holder, holds, fits, .inr way⟩
  above := by
    intro place node found front some part
    have below : place ≠ [] := by
      intro top
      rw [top] at part
      exact some (List.prefix_nil.1 part)
    have proper := not_isPrefix_dropLast below
    rw [nodes] at found ⊢
    by_cases here : place = names path.text
    · have other : front ≠ names path.text := by
        intro same
        rw [same, ← here] at part
        exact proper part
      rw [here, Function.update_self] at found
      rw [here] at part
      rw [Function.update_of_ne other]
      refine paved ?_ front some part
      intro none
      simp [none] at found
    · rw [Function.update_of_ne here] at found
      have other : front ≠ names path.text := by
        -- the place would lie below that of the path, and lead to another known one
        intro same
        rw [same] at part
        obtain ⟨holder, holds, fits, lower⟩ := mirrors.exists_isPrefix below found
        have one := apart.eq_of_isPrefix holds member fits storable
          ((part.trans (List.dropLast_prefix _)).trans lower)
        rw [one] at lower
        exact proper (lower.trans part)
      rw [Function.update_of_ne other]
      exact mirrors.above place node found front some part

/-! ## Steps and runs -/

theorem Mirrors.node_of_get? (mirrors : Mirrors known root tree blobs) {key : String}
    {content : Content} (held : blobs.get? key = some content) :
    Storable root key ∧ tree.node? (names key) = some (.file content.bytes) ∧
      tree.Paved (names key).dropLast := by
  obtain ⟨-, -, -, storable, there⟩ := mirrors.held key content held
  exact ⟨storable, there, mirrors.above _ _ there⟩

theorem Mirrors.get?_of_node (mirrors : Mirrors known root tree blobs) (apart : Apart known root)
    {path : Files.Path} (member : path ∈ known) (storable : Storable root path.text) {node : Node}
    (there : tree.node? (names path.text) = some node) :
    ∃ content, blobs.get? path.text = some content ∧ node = .file content.bytes := by
  have below := names_ne_nil storable.1
  obtain ⟨holder, holds, fits, here⟩ := mirrors.node _ node below there
  have part : names path.text <+: names holder.text := by
    rcases here with ⟨same, -⟩ | ⟨way, -⟩
    · rw [same]
    · exact way.trans (List.dropLast_prefix _)
  have one := apart.eq_of_isPrefix holds member fits storable part
  rw [one] at here
  rcases here with ⟨-, held⟩ | ⟨way, -⟩
  · exact held
  · exact absurd way (not_isPrefix_dropLast below)

theorem Mirrors.upload (mirrors : Mirrors known root tree blobs) (apart : Apart known root)
    {path : Files.Path} (member : path ∈ known) {content : Content}
    (success : (tree.upload path.text content.bytes).1 = .ok ()) :
    Mirrors known root (tree.upload path.text content.bytes).2 (blobs.put path.text content) := by
  obtain ⟨storable, grown, growth, paved, result⟩ := upload_ok success
  rw [mirrors.base] at storable
  rw [result]
  have grows := mirrors.grow member storable growth paved
  exact grows.update apart member storable (some content) (fun _ => paved) rfl
    (node?_set (names_ne_nil storable.1) _) (Memory.get?_put blobs path.text content)

theorem Mirrors.delete (mirrors : Mirrors known root tree blobs) (apart : Apart known root)
    {path : Files.Path} (member : path ∈ known) (success : (tree.delete path.text).1 = .ok ()) :
    Mirrors known root (tree.delete path.text).2 (blobs.erase path.text) := by
  have erased := Memory.get?_erase blobs path.text
  rcases delete_ok success with ⟨storable, result⟩ | ⟨missing, result⟩
  · rw [mirrors.base] at storable
    rw [result]
    exact mirrors.update apart member storable none (fun some => absurd rfl some) rfl
      (node?_clear (names_ne_nil storable.1)) erased
  · -- what is held could have been removed
    have nothing : blobs.get? path.text = none := by
      cases held : blobs.get? path.text with
      | none => rfl
      | some content =>
        obtain ⟨storable, there, paved⟩ := mirrors.node_of_get? held
        rw [← mirrors.base] at storable
        rw [placeToRemove_file storable.2 paved there] at missing
        cases missing
    have same : (blobs.erase path.text).get? = blobs.get? := by
      rw [erased, ← nothing, Function.update_eq_self]
    rw [result]
    exact ⟨mirrors.base, same ▸ mirrors.held, same ▸ mirrors.node, mirrors.above⟩

theorem Mirrors.copy (mirrors : Mirrors known root tree blobs) (apart : Apart known root)
    {source target : Files.Path} (knownSource : source ∈ known) (knownTarget : target ∈ known)
    (different : source ≠ target) (success : (tree.copy source.text target.text).1 = .ok ()) :
    ∃ copied, blobs.copy source.text target.text = .ok copied ∧
      Mirrors known root (tree.copy source.text target.text).2 copied := by
  obtain ⟨storable, grown, bytes, growth, paved, readable, there, length, nodes⟩ := copy_ok success
  rw [mirrors.base] at storable readable
  have grows := mirrors.grow knownTarget storable growth paved
  obtain ⟨content, held, same⟩ := grows.get?_of_node apart knownSource readable there
  cases same
  have elsewhere : names source.text ≠ names target.text := by
    intro equal
    exact different (apart.eq_of_isPrefix knownSource knownTarget readable storable (by rw [equal]))
  refine ⟨blobs.put target.text content, by rw [Memory.copy, held], ?_⟩
  refine grows.update apart knownTarget storable (some content) (fun _ => paved)
    (length.trans growth.root.symm) ?_ (Memory.get?_put blobs target.text content)
  rw [nodes, copied, if_neg elsewhere]
  rfl

/-- A call that succeeds on disk leaves the same in both stores. -/
theorem mirrors_perform (mirrors : Mirrors known root tree blobs) (apart : Apart known root)
    {edit : Edit} (among : edit.Over known) (success : (edit.perform (.disk tree)).1 = .ok ()) :
    ∃ changed others, (edit.perform (.disk tree)).2 = .disk changed ∧
      (edit.perform (.memory blobs)).2 = .memory others ∧ Mirrors known root changed others := by
  cases edit with
  | upload path content =>
    rw [Edit.perform, Store.upload_disk] at success ⊢
    exact ⟨_, _, rfl, rfl, mirrors.upload apart among success⟩
  | delete path =>
    rw [Edit.perform, Store.delete_disk] at success ⊢
    exact ⟨_, _, rfl, rfl, mirrors.delete apart among success⟩
  | copy source target =>
    rw [Edit.perform, Store.copy_disk] at success ⊢
    obtain ⟨knownSource, knownTarget, different⟩ := among
    obtain ⟨copied, held, mirrored⟩ := mirrors.copy apart knownSource knownTarget different success
    refine ⟨_, copied, rfl, ?_, mirrored⟩
    simp only [Edit.perform, Store.copy, held]

theorem mirrors_after (apart : Apart known root) {edits : List Edit}
    (among : ∀ edit ∈ edits, edit.Over known) (mirrors : Mirrors known root tree blobs)
    (works : Works (.disk tree) edits) :
    ∃ changed others, after (.disk tree) edits = .disk changed ∧
      after (.memory blobs) edits = .memory others ∧ Mirrors known root changed others := by
  induction edits generalizing tree blobs with
  | nil => exact ⟨tree, blobs, rfl, rfl, mirrors⟩
  | cons edit rest ih =>
    obtain ⟨success, later⟩ := works
    obtain ⟨changed, others, disk, memory, mirrored⟩ :=
      mirrors_perform mirrors apart (among edit (.head _)) success
    rw [disk] at later
    have ends := ih (fun edit member => among edit (.tail _ member)) mirrored later
    rw [← disk, ← memory] at ends
    exact ends

/-! ## What the stores show -/

theorem Mirrors.unblocked (mirrors : Mirrors known root tree blobs) (apart : Apart known root)
    {path : Files.Path} (member : path ∈ known) (storable : Storable root path.text) :
    tree.Unblocked (names path.text).dropLast := by
  intro front some part bytes there
  have lower := part.trans (List.dropLast_prefix _)
  obtain ⟨holder, holds, fits, ⟨here, -⟩ | ⟨-, directory⟩⟩ := mirrors.node front _ some there
  · rw [here] at lower
    have one := apart.eq_of_isPrefix member holds storable fits lower
    rw [here, ← one] at part
    exact not_isPrefix_dropLast (names_ne_nil storable.1) part
  · cases directory

theorem Mirrors.agree_storable (mirrors : Mirrors known root tree blobs)
    (apart : Apart known root) {path : Files.Path} (member : path ∈ known)
    (storable : Storable root path.text) :
    tree.read path.text = .ok ((blobs.get? path.text).map (·.bytes)) ∧
      tree.contains path.text = .ok (blobs.contains path.text) := by
  have filed : Filed tree.rootLength (Text.segments path.text) := mirrors.base ▸ storable.2
  unfold Memory.contains
  cases held : blobs.get? path.text with
  | some content =>
    obtain ⟨-, there, paved⟩ := mirrors.node_of_get? held
    have found := find_filed filed paved
    rw [← names_eq, there] at found
    exact read_file storable.1 found
  | none =>
    have missing : tree.node? (names path.text) = none := by
      cases there : tree.node? (names path.text) with
      | none => rfl
      | some node =>
        obtain ⟨content, found, -⟩ := mirrors.get?_of_node apart member storable there
        rw [held] at found
        cases found
    exact read_none storable.1 (find_none filed (mirrors.unblocked apart member storable) missing)

theorem Mirrors.hidden (mirrors : Mirrors known root tree blobs) (apart : Apart known root)
    {path : Files.Path} (member : path ∈ known) (refused : ¬ Storable root path.text) :
    blobs.get? path.text = none ∧ (∀ bytes, tree.read path.text ≠ .ok (some bytes)) ∧
      tree.contains path.text ≠ .ok true := by
  have absent : ∀ node, isPlain path.text = true →
      tree.find (Text.segments path.text) ≠ .ok node := by
    intro node plain found
    obtain ⟨fits, -, there, filed⟩ := find_ok found
    rw [mirrors.base] at fits filed
    rw [← names_eq] at there
    obtain ⟨holder, holds, storable, here⟩ := mirrors.node _ node (names_ne_nil plain) there
    have different : holder ≠ path := by
      intro same
      rw [same] at storable
      exact refused storable
    refine apart holder holds path member different ⟨storable, ?_⟩
    rcases here with ⟨same, content, -, file⟩ | ⟨way, -⟩
    · exact .inl ⟨⟨plain, filed _ file⟩, same⟩
    · refine .inr ⟨⟨plain, fits⟩, way.trans (List.dropLast_prefix _), fun same => ?_⟩
      rw [same] at way
      exact not_isPrefix_dropLast (names_ne_nil storable.1) way
  refine ⟨?_, fun bytes found => ?_, fun found => ?_⟩
  · cases held : blobs.get? path.text with
    | none => rfl
    | some content => exact absurd (mirrors.node_of_get? held).1 refused
  · obtain ⟨plain, there⟩ := read_some found
    exact absent _ plain there
  · obtain ⟨plain, node, there⟩ := contains_true_iff.1 found
    exact absent node plain there

theorem Mirrors.agree (mirrors : Mirrors known root tree blobs) (apart : Apart known root)
    {path : Files.Path} (member : path ∈ known) :
    Agree root (.disk tree) (.memory blobs) path.text := by
  by_cases storable : Storable root path.text
  · obtain ⟨bytes, presence⟩ := mirrors.agree_storable apart member storable
    refine ⟨fun _ => ?_, ?_, fun _ => ⟨bytes, presence⟩⟩
    · simp only [Store.bytes?, bytes]
    · simp only [Store.contains, presence]
  · obtain ⟨nothing, unread, unseen⟩ := mirrors.hidden apart member storable
    refine ⟨fun bytes => ?_, ?_, fun storable' => absurd storable' storable⟩
    · simp [Store.bytes?, unread, nothing]
    · simp [Store.contains, unseen, Memory.contains, nothing]

/-! ## Where the stores come apart -/

theorem after_upload (tree : Disk) (path : Files.Path) (content : Content) :
    after (.disk tree) [.upload path content] =
      .disk (tree.upload path.text content.bytes).2 := by
  rw [after, List.foldl_cons, List.foldl_nil, Edit.perform, Store.upload_disk]

theorem works_upload {tree : Disk} {path : Files.Path} {content : Content} {rest : List Edit} :
    Works (.disk tree) (.upload path content :: rest) ↔
      (tree.upload path.text content.bytes).1 = .ok () ∧
        Works (.disk (tree.upload path.text content.bytes).2) rest := by
  rw [Works, Edit.perform, Store.upload_disk]

theorem works_copy {tree : Disk} {source target : Files.Path} :
    Works (.disk tree) [.copy source target] ↔
      (tree.copy source.text target.text).1 = .ok () := by
  rw [Works, Edit.perform, Store.copy_disk, Works, and_true]

/-- A content that is stored at one path and shows at another one sets the stores apart. -/
theorem shows_disagree {first second : Files.Path} (different : first ≠ second)
    (visible : Shows root first.text second.text) (content : Content) :
    Works (.disk ⟨[], root⟩) [.upload first content] ∧
      ¬ Agree root (after (.disk ⟨[], root⟩) [.upload first content])
        (after (.memory {}) [.upload first content]) second.text := by
  obtain ⟨storable, shown⟩ := visible
  obtain ⟨tree, stored, length, paved, there⟩ := upload_fresh storable content.bytes
  have other : second.text ≠ first.text := fun same => different (Files.Path.text_inj.1 same).symm
  have nothing : (({} : Memory).put first.text content).get? second.text = none := by
    rw [Memory.get?_put, Function.update_of_ne other]
    rfl
  rw [works_upload, after_upload, stored]
  refine ⟨⟨rfl, trivial⟩, fun agree => ?_⟩
  rcases shown with ⟨upper, same⟩ | ⟨⟨plain, fits⟩, part, proper⟩
  · rw [← length] at upper
    rw [← same] at paved there
    have found := find_filed upper.2 paved
    rw [← names_eq, there] at found
    have seen : (Store.disk tree).bytes? second.text = .ok (some content.bytes) := by
      rw [Store.bytes?, (read_file upper.1 found).1]
    have lost := (agree.bytes content.bytes).1 seen
    simp [after, Edit.perform, Store.upload, Store.bytes?, nothing] at lost
  · have way : names second.text <+: (names first.text).dropLast := by
      rw [← List.dropLast_concat_getLast (names_ne_nil storable.1)] at part proper
      exact (List.prefix_concat_iff.1 part).resolve_left proper
    rw [← length] at fits
    have found := find_directory fits
      (fun name member => storable.2.sizes name (part.subset member)) (paved.above way)
    have seen : (Store.disk tree).contains second.text = .ok true := by
      rw [Store.contains, contains_true_iff]
      exact ⟨plain, _, found⟩
    have lost := agree.presence.1 seen
    simp [after, Edit.perform, Store.upload, Store.contains, Memory.contains, nothing] at lost

/-- A content that is copied onto itself is lost on disk, and kept in memory. -/
theorem selfCopy_disagree {path : Files.Path} (storable : Storable root path.text)
    (content : Content) (filled : content.bytes ≠ ByteArray.empty) :
    Works (.disk ⟨[], root⟩) [.upload path content, .copy path path] ∧
      ¬ Agree root (after (.disk ⟨[], root⟩) [.upload path content, .copy path path])
        (after (.memory {}) [.upload path content, .copy path path]) path.text := by
  obtain ⟨tree, stored, length, paved, there⟩ := upload_fresh storable content.bytes
  have absent : tree.node? (names path.text) ≠ some .directory := by
    rw [there]
    simp
  rw [← length] at storable
  have success := copy_storable storable storable paved there paved.unblocked absent
  have copies : after (.disk ⟨[], root⟩) [.upload path content, .copy path path] =
      .disk (tree.copy path.text path.text).2 := by
    rw [after, List.foldl_cons, Edit.perform, Store.upload_disk, stored, List.foldl_cons,
      List.foldl_nil, Edit.perform, Store.copy_disk]
  have kept : (({} : Memory).put path.text content).get? path.text = some content := by
    rw [Memory.get?_put, Function.update_self]
  rw [works_upload, copies, stored]
  refine ⟨⟨rfl, works_copy.2 success⟩, fun agree => ?_⟩
  obtain ⟨-, grown, bytes, -, -, -, -, -, nodes⟩ := copy_ok success
  have memory : (after (.memory {}) [.upload path content, .copy path path]).bytes? path.text =
      .ok (some content.bytes) := by
    simp [after, Edit.perform, Store.upload, Store.copy, Memory.copy, kept, Store.bytes?,
      Memory.get?_put]
  have seen := (agree.bytes content.bytes).2 memory
  rw [Store.bytes?] at seen
  obtain ⟨-, found⟩ := read_some seen
  obtain ⟨-, -, left, -⟩ := find_ok found
  rw [← names_eq, nodes, Function.update_self, copied, if_pos rfl] at left
  simp only [Option.some.injEq, Node.file.injEq] at left
  exact filled left.symm

/-- **On disk and in memory.**  Calls on some paths that all succeed on disk leave the same on
disk and in memory, at each of the paths, if no content stored at one of them shows at another
one and no content is copied onto itself; and only if so. -/
theorem agree_iff_apart (root : Nat) (known : Set Files.Path) :
    ((∀ edits : List Edit, (∀ edit ∈ edits, edit.Over known) → Works (.disk ⟨[], root⟩) edits →
        ∀ path ∈ known,
          Agree root (after (.disk ⟨[], root⟩) edits) (after (.memory {}) edits) path.text) ↔
      Apart known root) ∧
    ∀ path : Files.Path, Storable root path.text →
      ∀ content : Content, content.bytes ≠ ByteArray.empty →
        Works (.disk ⟨[], root⟩) [.upload path content, .copy path path] ∧
          ¬ Agree root (after (.disk ⟨[], root⟩) [.upload path content, .copy path path])
            (after (.memory {}) [.upload path content, .copy path path]) path.text := by
  refine ⟨⟨fun always first one second two different shown => ?_,
    fun apart edits among works path member => ?_⟩, ?_⟩
  · let content : Content := ⟨ByteArray.empty, ""⟩
    obtain ⟨works, disagree⟩ := shows_disagree different shown content
    refine disagree (always _ ?_ works second two)
    intro edit member
    rw [List.mem_singleton.1 member]
    exact one
  · obtain ⟨changed, others, disk, memory, mirrors⟩ :=
      mirrors_after apart among (mirrors_fresh known root) works
    rw [disk, memory]
    exact mirrors.agree apart member
  · intro path storable content filled
    exact selfCopy_disagree storable content filled

def nested : Files.Path := ⟨"e", 2026, 1, "user", "u1", "a/b.png", by decide⟩

def doubled : Files.Path := ⟨"e", 2026, 1, "user", "u1", "a//b.png", by decide⟩

/-- A slash too many makes another path, but no other place: what is stored at the one is lost
to what is stored at the other. -/
theorem doubled_overwrites :
    let edits : List Edit :=
      [.upload nested ⟨"1".toUTF8, "image/png"⟩, .upload doubled ⟨"2".toUTF8, "image/png"⟩]
    nested ≠ doubled ∧ Works (.disk {}) edits ∧
      (after (.disk {}) edits).bytes? nested.text = .ok (some "2".toUTF8) ∧
      (after (.memory {}) edits).bytes? nested.text = .ok (some "1".toUTF8) := by
  refine ⟨by decide, ⟨?_, ?_, trivial⟩, ?_, ?_⟩
  · decide +kernel
  · decide +kernel
  · decide +kernel
  · decide +kernel

theorem agree_iff_apart_doubled :
    ¬ (∀ edits : List Edit, (∀ edit ∈ edits, edit.Over {doubled, nested}) →
        Works (.disk ⟨[], 15⟩) edits → ∀ path ∈ ({doubled, nested} : Set Files.Path),
          Agree 15 (after (.disk ⟨[], 15⟩) edits) (after (.memory {}) edits) path.text) ∧
      ¬ Agree 15
        (after (.disk ⟨[], 15⟩) [.upload nested ⟨"P".toUTF8, "image/png"⟩, .copy nested nested])
        (after (.memory {}) [.upload nested ⟨"P".toUTF8, "image/png"⟩, .copy nested nested])
        nested.text := by
  obtain ⟨exactly, selfCopy⟩ := agree_iff_apart 15 {doubled, nested}
  have one : Storable 15 doubled.text := (storable_iff "P".toUTF8).2 (by decide +kernel)
  have two : Storable 15 nested.text := (storable_iff "P".toUTF8).2 (by decide +kernel)
  refine ⟨fun always => ?_, (selfCopy nested two ⟨"P".toUTF8, "image/png"⟩ ?_).2⟩
  · refine exactly.1 always doubled (by simp) nested (by simp) (by decide) ⟨one, .inl ⟨two, ?_⟩⟩
    decide +kernel
  · decide +kernel

end Depot.Blobs
