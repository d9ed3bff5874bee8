import Depot.Files.Catalogue
import Depot.Proofs.Files.PathText
import Mathlib.Data.List.Nodup

/-!
# The file records as a list

What the catalogue finds is one of its records, and with identifiers of their own the
records are changed like a list: a file with a new identifier and a new path is added at
the end, and a file that is erased is filtered out.  Looking for a written path finds the
records that compare equal by their parts, so the two ways of asking for a path agree.
-/

set_option autoImplicit false

namespace Depot.Files.Catalogue

variable {files : Catalogue} {file : File}

theorem mem_ofEntity {entityType entityId : String} :
    file ∈ files.ofEntity entityType entityId ↔
      file ∈ files.records ∧ file.ownedBy entityType entityId = true := by
  simp [ofEntity]

theorem mem_of_current? {owner : Owner} (current : files.current? owner = some file) :
    file ∈ files.records ∧ file.ownedBy owner.entityType owner.entityId = true :=
  mem_ofEntity.1 (List.mem_of_find?_eq_some current)

theorem findByPath?_eq_none {path : String} :
    files.findByPath? path = none ↔ ∀ other ∈ files.records, other.path.text ≠ path := by
  simp [findByPath?]

theorem findByPath?_of_mem (paths : (files.records.map (·.path.text)).Nodup)
    (member : file ∈ files.records) : files.findByPath? file.path.text = some file := by
  cases found : files.findByPath? file.path.text with
  | none => exact absurd rfl (findByPath?_eq_none.1 found file member)
  | some other =>
    have there : other ∈ files.records := List.mem_of_find?_eq_some found
    have same : other.path.text = file.path.text := by simpa using List.find?_some found
    rw [List.inj_on_of_nodup_map paths there member same]

theorem insert_fresh (newId : ∀ other ∈ files.records, other.id ≠ file.id)
    (newPath : ∀ other ∈ files.records, other.path ≠ file.path) :
    files.insert file = .ok ⟨files.records ++ [file.detached]⟩ := by
  have ids : files.records.any (·.id = file.id) = false := by simpa using newId
  have paths : files.records.any (·.path = file.path) = false := by simpa using newPath
  simp [insert, ids, paths]

theorem eraseFirst_eq_filter (id : Uuid) (records : List File)
    (ids : (records.map (·.id)).Nodup) :
    eraseFirst id records = records.filter (·.id ≠ id) := by
  induction records with
  | nil => rfl
  | cons first rest ih =>
    rw [List.map_cons, List.nodup_cons] at ids
    obtain ⟨alone, restIds⟩ := ids
    by_cases here : first.id = id
    · have others : rest.filter (·.id ≠ id) = rest := by
        rw [List.filter_eq_self]
        intro other member
        have differs : other.id ≠ first.id := fun same =>
          alone (same ▸ List.mem_map_of_mem member)
        simpa [here] using differs
      rw [eraseFirst, if_pos here, List.filter_cons_of_neg (by simpa using here), others]
    · rw [eraseFirst, if_neg here, ih restIds, List.filter_cons_of_pos (by simpa using here)]

theorem erase_eq_filter (id : Uuid) (ids : (files.records.map (·.id)).Nodup) :
    files.erase id = ⟨files.records.filter (·.id ≠ id)⟩ := by
  rw [erase, eraseFirst_eq_filter id files.records ids]

theorem eraseFirst_append (id : Uuid) (records : List File)
    (ids : (records.map (·.id)).Nodup) (other : file.id ≠ id) :
    eraseFirst id (records ++ [file]) = records.filter (·.id ≠ id) ++ [file] := by
  induction records with
  | nil => simp [eraseFirst, other]
  | cons first rest ih =>
    have filtered := eraseFirst_eq_filter id (first :: rest) ids
    rw [List.map_cons, List.nodup_cons] at ids
    rw [← filtered, List.cons_append, eraseFirst, eraseFirst]
    by_cases here : first.id = id
    · rw [if_pos here, if_pos here]
    · rw [if_neg here, if_neg here, ih ids.2, eraseFirst_eq_filter id rest ids.2,
        List.cons_append]

/-! ## Written paths as keys -/

theorem of_findByPath? {path : Path} (found : files.findByPath? path.text = some file) :
    file ∈ files.records ∧ file.path = path := by
  have there : file ∈ files.records := List.mem_of_find?_eq_some found
  have same : file.path.text = path.text := by simpa using List.find?_some found
  exact ⟨there, Path.text_inj.1 same⟩

theorem exists_findByPath?_iff (files : Catalogue) (path : Path) :
    (∃ other, files.findByPath? path.text = some other) ↔
      files.records.any (·.path = path) = true := by
  rw [List.any_eq_true]
  constructor
  · rintro ⟨other, found⟩
    obtain ⟨there, same⟩ := of_findByPath? found
    exact ⟨other, there, by simpa using same⟩
  · rintro ⟨other, there, same⟩
    have same : other.path = path := by simpa using same
    cases found : files.findByPath? path.text with
    | some first => exact ⟨first, rfl⟩
    | none => exact absurd (congrArg Path.text same) (findByPath?_eq_none.1 found other there)

theorem insert_newId (newId : ∀ other ∈ files.records, other.id ≠ file.id) :
    files.insert file =
      if files.records.any (·.path = file.path) then
        .error (.alreadyExists ("file path " ++ file.path.text))
      else .ok ⟨files.records ++ [file.detached]⟩ := by
  have ids : files.records.any (·.id = file.id) = false := by simpa using newId
  simp [insert, ids]

/-- **Written paths stand for paths.**  Every path reads back as it is from its written form, so
that no two share one; and looking for a written path finds a record just where the comparison
of paths, which decides whether a file with a new identifier can be added, finds one. -/
theorem text_stands_for_path :
    (∀ path : Path, Path.parse path.text = .ok path) ∧
      (∀ first second : Path, first.text = second.text → first = second) ∧
      ∀ (files : Catalogue) (file : File),
        ((∃ other, files.findByPath? file.path.text = some other) ↔
            files.records.any (·.path = file.path) = true) ∧
          (∀ other, files.findByPath? file.path.text = some other →
            other ∈ files.records ∧ other.path = file.path) ∧
          ((∀ other ∈ files.records, other.id ≠ file.id) →
            ((∃ other, files.findByPath? file.path.text = some other) ↔
              files.insert file = .error (.alreadyExists ("file path " ++ file.path.text)))) := by
  refine ⟨Path.parse_text, fun first second => Path.text_inj.1, fun files file => ?_⟩
  refine ⟨exists_findByPath?_iff files file.path, fun other => of_findByPath?, fun newId => ?_⟩
  rw [exists_findByPath?_iff, insert_newId newId]
  by_cases taken : files.records.any (·.path = file.path) = true
  · simp [taken]
  · simp [taken]

end Depot.Files.Catalogue
