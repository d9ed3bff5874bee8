import Depot.Proofs.Calls
import Depot.Proofs.Files.PathText
import Depot.Proofs.Lookup
import Mathlib.Data.List.Nodup

/-!
# Records and their contents

The file records and the contents in memory as one value, and the two ways in which
use cases change it: some files leave, with all or some of their contents, and a
file joins together with its content.  `Backed` says that every record has the
content that was uploaded for it, `Exact` that there is no other content; both
survive files that leave and files that join.
-/

set_option autoImplicit false

namespace Depot

open Blobs (Content Memory)
open Files (File Catalogue)

namespace Blobs.Memory

theorem get?_put (blobs : Memory) (path : String) (content : Content) :
    (blobs.put path content).get? = Function.update blobs.get? path (some content) :=
  lookup_put (putEntry path content) rfl (fun _ _ => rfl) blobs.entries

theorem get?_erase (blobs : Memory) (path : String) :
    (blobs.erase path).get? = Function.update blobs.get? path none :=
  lookup_filter_ne path blobs.entries

end Blobs.Memory

theorem Files.nodup_texts {records : List File} (paths : (records.map (·.path)).Nodup) :
    (records.map (·.path.text)).Nodup := by
  have injected := paths.map Files.Path.text_injective
  rwa [List.map_map] at injected

/-- What lies in the stores of files: the records in order, and the content at each path. -/
structure Holdings where
  records : List File
  content : String → Option Content

def State.InMemory (state : State) : Prop := ∃ blobs, state.blobs = .memory blobs

def State.content? (state : State) (path : String) : Option Content :=
  match state.blobs with
  | .memory blobs => blobs.get? path
  | .disk _ => none

def State.holdings (state : State) : Holdings := ⟨state.files.records, state.content?⟩

theorem State.content?_of_memory {state : State} {blobs : Memory}
    (inMemory : state.blobs = .memory blobs) : state.content? = blobs.get? := by
  funext path
  rw [content?, inMemory]

theorem State.content?_of_blobs {before after : State} (same : after.blobs = before.blobs) :
    after.content? = before.content? := by
  funext path
  rw [content?, content?, same]

theorem State.content?_put {before after : State} {blobs : Memory}
    (inMemory : before.blobs = .memory blobs) {path : String} {content : Content}
    (put : after.blobs = .memory (blobs.put path content)) :
    after.content? = Function.update before.content? path (some content) := by
  rw [content?_of_memory put, content?_of_memory inMemory, Memory.get?_put]

theorem State.holdings_congr {before after : State} (files : after.files = before.files)
    (blobs : after.blobs = before.blobs) : after.holdings = before.holdings := by
  rw [holdings, holdings, files, content?_of_blobs blobs]

theorem State.holdings_of {state : State} {records : List File} {blobs : Memory}
    (files : state.files.records = records) (inMemory : state.blobs = .memory blobs) :
    state.holdings = ⟨records, blobs.get?⟩ := by
  rw [holdings, files, content?_of_memory inMemory]

theorem State.holdings_eq {state : State} {blobs : Memory} (inMemory : state.blobs = .memory blobs) :
    state.holdings = ⟨state.files.records, blobs.get?⟩ := holdings_of rfl inMemory

/-! ## What was uploaded for a record -/

namespace Call

def content? : Call → Option Content
  | uploadBlob bytes target => some ⟨bytes, target.mimeType⟩
  | _ => none

def creates (id : Uuid) : Call → Bool
  | createFile file => file.id = id
  | _ => false

theorem creates_of_stores {call : Call} (spares : call.stores = false) (id : Uuid) :
    call.creates id = false := by
  cases call <;> first | rfl | contradiction

end Call

/-- The content handed over last before the record of an identifier was made. -/
def uploadedFor (id : Uuid) (calls : List Call) : Option Content :=
  (calls.dropWhile (!·.creates id)).findSome? Call.content?

theorem uploadedFor_append {id : Uuid} {added : List Call}
    (other : ∀ call ∈ added, call.creates id = false) (calls : List Call) :
    uploadedFor id (added ++ calls) = uploadedFor id calls := by
  rw [uploadedFor, List.dropWhile_append_of_pos fun call member => by simp [other call member]]
  rfl

theorem uploadedFor_created {file : File} {between : List Call} {bytes : ByteArray}
    {target : UploadTarget} (quiet : ∀ call ∈ between, call.content? = none)
    (calls : List Call) :
    uploadedFor file.id (.createFile file :: (between ++ .uploadBlob bytes target :: calls)) =
      some ⟨bytes, target.mimeType⟩ := by
  have skipped : between.findSome? Call.content? = none := List.findSome?_eq_none_iff.2 quiet
  simp [uploadedFor, Call.creates, List.findSome?_cons, Call.content?, skipped]

namespace Holdings

/-! ## Leaving and joining -/

/-- Some files leave, and the contents at some paths are removed. -/
def leave (holdings : Holdings) (gone : File → Bool) (removed : List String) : Holdings :=
  ⟨holdings.records.filter (!gone ·),
    fun path => if path ∈ removed then none else holdings.content path⟩

/-- A file joins, and its content is put at its path. -/
def join (holdings : Holdings) (file : File) (content : Content) : Holdings :=
  ⟨holdings.records ++ [file],
    Function.update holdings.content file.path.text (some content)⟩

variable {holdings : Holdings} {calls : List Call} {gone : File → Bool} {removed : List String}

/-- Every record has the content that was uploaded for it, and no two are the same. -/
structure Backed (holdings : Holdings) (calls : List Call) : Prop where
  ids : (holdings.records.map (·.id)).Nodup
  paths : (holdings.records.map (·.path)).Nodup
  contents : ∀ file ∈ holdings.records, ∃ content,
    holdings.content file.path.text = some content ∧ uploadedFor file.id calls = some content ∧
      content.bytes.size = file.metadata.size ∧ content.mimeType = file.metadata.mimeType

/-- There is a content at the paths of records and nowhere else. -/
def Exact (holdings : Holdings) : Prop :=
  ∀ path, (holdings.content path).isSome ↔ ∃ file ∈ holdings.records, file.path.text = path

/-- What is removed are contents of files that leave. -/
def Theirs (holdings : Holdings) (gone : File → Bool) (removed : List String) : Prop :=
  ∀ file ∈ holdings.records, file.path.text ∈ removed → gone file = true

theorem Backed.eq_of_id (backed : holdings.Backed calls) {first second : File}
    (here : first ∈ holdings.records) (there : second ∈ holdings.records)
    (same : first.id = second.id) : first = second :=
  List.inj_on_of_nodup_map backed.ids here there same

theorem Backed.eq_of_text (backed : holdings.Backed calls) {first second : File}
    (here : first ∈ holdings.records) (there : second ∈ holdings.records)
    (same : first.path.text = second.path.text) : first = second :=
  List.inj_on_of_nodup_map backed.paths here there (Files.Path.text_injective same)

theorem Backed.texts (backed : holdings.Backed calls) :
    (holdings.records.map (·.path.text)).Nodup := Files.nodup_texts backed.paths

theorem Backed.leave (backed : holdings.Backed calls)
    (theirs : holdings.Theirs gone removed) : (holdings.leave gone removed).Backed calls where
  ids := backed.ids.sublist (List.filter_sublist.map _)
  paths := backed.paths.sublist (List.filter_sublist.map _)
  contents := by
    intro file member
    obtain ⟨present, stays⟩ := List.mem_filter.1 member
    obtain ⟨content, found, facts⟩ := backed.contents file present
    refine ⟨content, ?_, facts⟩
    have kept : file.path.text ∉ removed := by
      intro lost
      rw [theirs file present lost] at stays
      contradiction
    simp only [Holdings.leave, if_neg kept]
    exact found

theorem Exact.leave (exact : holdings.Exact) (theirs : holdings.Theirs gone removed)
    (all : ∀ file ∈ holdings.records, gone file = true → file.path.text ∈ removed) :
    (holdings.leave gone removed).Exact := by
  intro path
  simp only [Holdings.leave, List.mem_filter, Bool.not_eq_true']
  by_cases lost : path ∈ removed
  · simp only [if_pos lost, Option.isSome_none, Bool.false_eq_true, false_iff, not_exists]
    rintro file ⟨⟨present, stays⟩, rfl⟩
    rw [theirs file present lost] at stays
    contradiction
  · rw [if_neg lost, exact path]
    constructor
    · rintro ⟨file, present, rfl⟩
      refine ⟨file, ⟨present, ?_⟩, rfl⟩
      by_contra leaves
      exact lost (all file present (by simpa using leaves))
    · rintro ⟨file, ⟨present, -⟩, rfl⟩
      exact ⟨file, present, rfl⟩

theorem Backed.join (backed : holdings.Backed calls) {file : File} {content : Content}
    (newId : ∀ other ∈ holdings.records, other.id ≠ file.id)
    (newPath : ∀ other ∈ holdings.records, other.path ≠ file.path)
    (uploaded : uploadedFor file.id calls = some content)
    (size : content.bytes.size = file.metadata.size)
    (mimeType : content.mimeType = file.metadata.mimeType) :
    (holdings.join file content).Backed calls where
  ids := nodup_map_concat backed.ids newId
  paths := nodup_map_concat backed.paths newPath
  contents := by
    intro other member
    rcases List.mem_append.1 member with present | last
    · obtain ⟨old, found, facts⟩ := backed.contents other present
      have elsewhere : other.path.text ≠ file.path.text := fun same =>
        newPath other present (Files.Path.text_injective same)
      refine ⟨old, ?_, facts⟩
      simp only [Holdings.join, Function.update_of_ne elsewhere]
      exact found
    · obtain rfl : other = file := by simpa using last
      exact ⟨content, by simp [Holdings.join], uploaded, size, mimeType⟩

theorem Exact.join (exact : holdings.Exact) (file : File) (content : Content) :
    (holdings.join file content).Exact := by
  intro path
  simp only [Holdings.join, List.mem_append, List.mem_singleton]
  by_cases here : path = file.path.text
  · subst here
    simp only [Function.update_self, Option.isSome_some, true_iff]
    exact ⟨file, .inr rfl, rfl⟩
  · rw [Function.update_of_ne here, exact path]
    constructor
    · rintro ⟨other, present, same⟩
      exact ⟨other, .inl present, same⟩
    · rintro ⟨other, present | rfl, same⟩
      · exact ⟨other, present, same⟩
      · exact absurd same.symm here

theorem Backed.later (backed : holdings.Backed calls) {later : List Call}
    (same : ∀ file ∈ holdings.records, uploadedFor file.id later = uploadedFor file.id calls) :
    holdings.Backed later where
  ids := backed.ids
  paths := backed.paths
  contents := by
    intro file present
    rw [same file present]
    exact backed.contents file present

end Holdings

end Depot
