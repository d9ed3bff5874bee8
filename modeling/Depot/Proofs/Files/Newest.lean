import Depot.Proofs.Files.Writes

/-!
# The newest first

The files of an entity are taken from the last record to the first and then sorted by their times,
which leaves files of the same time as they were.  So they stand in the order of their times and,
within a time, of their places among the records, each the other way round.  The first one of an
owner in that list is the last one in that order.
-/

set_option autoImplicit false

namespace Depot

theorem Instant.le_antisymm {a b : Instant} (early : a.le b = true) (late : b.le a = true) :
    a = b := by
  cases a
  cases b
  simp only [le, Bool.or_eq_true, Bool.and_eq_true, decide_eq_true_eq, beq_iff_eq] at early late
  simp only [mk.injEq]
  omega

namespace Files

open Act

namespace Catalogue

/-! ## The order of a list -/

/-- Of two records, each with its place among all, the first is newer, or it is of the same time
and was added later. -/
inductive Sooner : File × Nat → File × Nat → Prop
  | newer {one other : File × Nat} (later : one.1.createdAt.le other.1.createdAt = false) :
    Sooner one other
  | addedLater {one other : File × Nat} (same : one.1.createdAt = other.1.createdAt)
    (behind : other.2 < one.2) : Sooner one other

variable {one other : File × Nat}

theorem Sooner.asymm (first : Sooner one other) : ¬ Sooner other one := by
  intro second
  cases first with
  | newer later =>
    cases second with
    | newer earlier =>
      have total := Instant.le_total one.1.createdAt other.1.createdAt
      rw [later, earlier] at total
      cases total
    | addedLater same behind =>
      rw [same, Instant.le_refl] at later
      cases later
  | addedLater same behind =>
    cases second with
    | newer earlier =>
      rw [same, Instant.le_refl] at earlier
      cases earlier
    | addedLater again before => omega

theorem sooner_of_newerOrSame (newer : newerOrSame one.1 other.1 = true)
    (behind : other.2 < one.2) : Sooner one other := by
  by_cases older : one.1.createdAt.le other.1.createdAt = true
  · exact .addedLater (Instant.le_antisymm older newer) behind
  · exact .newer (Bool.eq_false_iff.2 older)

theorem newerOrSame_trans (a b c : File) (first : newerOrSame a b = true)
    (second : newerOrSame b c = true) : newerOrSame a c = true := Instant.le_trans second first

theorem newerOrSame_total (a b : File) : (newerOrSame a b || newerOrSame b a) = true :=
  Instant.le_total b.createdAt a.createdAt

theorem pairwise_sooner {placed : List (File × Nat)}
    (behind : placed.Pairwise fun one other => other.2 < one.2) :
    (placed.mergeSort fun one other => newerOrSame one.1 other.1).Pairwise Sooner := by
  induction placed with
  | nil => simp
  | cons first rest ih =>
    obtain ⟨behindFirst, behind⟩ := List.pairwise_cons.1 behind
    have trans := fun a b c : File × Nat => newerOrSame_trans a.1 b.1 c.1
    have total := fun a b : File × Nat => newerOrSame_total a.1 b.1
    -- the newer ones come before the first record, and all others stay behind it
    obtain ⟨newer, older, sorted, others, before⟩ := List.mergeSort_cons trans total first rest
    have among : ∀ other ∈ older, other ∈ rest := by
      intro other member
      have listed := List.mem_append_right newer member
      rw [← others] at listed
      exact List.mem_mergeSort.1 listed
    have ordered := List.pairwise_mergeSort trans total (first :: rest)
    have ih := ih behind
    rw [others, List.pairwise_append] at ih
    rw [sorted, List.pairwise_append] at ordered
    rw [sorted, List.pairwise_append]
    obtain ⟨newerOnes, olderOnes, across⟩ := ih
    refine ⟨newerOnes, List.pairwise_cons.2 ⟨?_, olderOnes⟩, ?_⟩
    · intro other member
      have notOlder := List.rel_of_pairwise_cons ordered.2.1 member
      exact sooner_of_newerOrSame notOlder (behindFirst other (among other member))
    · intro one member other present
      rcases List.mem_cons.1 present with rfl | later
      · exact .newer (by simpa [newerOrSame] using before one member)
      · exact across one member other later

/-! ## The files of an entity -/

/-- The wanted ones of the records are listed, the newest first. -/
def NewestFirst (records : List File) (wanted : File → Bool) (listed : List File) : Prop :=
  ∃ placed : List (File × Nat), placed.map Prod.fst = listed ∧
    placed.Perm (records.zipIdx.filter fun record => wanted record.1) ∧ placed.Pairwise Sooner

variable {files : Catalogue} {file : File} {owner : Owner}

theorem newestFirst_ofEntity (files : Catalogue) (entityType entityId : String) :
    NewestFirst files.records (·.ownedBy entityType entityId)
      (files.ofEntity entityType entityId) := by
  let wanted := files.records.zipIdx.filter fun record => record.1.ownedBy entityType entityId
  have ascending : files.records.zipIdx.Pairwise fun one other => one.2 < other.2 := by
    rw [← List.pairwise_map (f := Prod.snd) (R := (· < ·)), List.zipIdx_map_snd]
    exact List.pairwise_lt_range'
  refine ⟨wanted.reverse.mergeSort fun one other => newerOrSame one.1 other.1, ?_, ?_, ?_⟩
  · have reversed : wanted.reverse.map Prod.fst =
        files.records.reverse.filter (·.ownedBy entityType entityId) := by
      rw [List.map_reverse, List.filter_reverse]
      congr 1
      conv_rhs => rw [← List.zipIdx_map_fst 0 files.records, List.filter_map]
      rfl
    rw [List.map_mergeSort (s := newerOrSame) fun _ _ _ _ => rfl, reversed]
    rfl
  · exact (List.mergeSort_perm _ _).trans (List.reverse_perm _)
  · exact pairwise_sooner (List.pairwise_reverse.2 (ascending.filter _))

/-! ## The current file of an owner -/

/-- Of the records that fill the slot of an owner, this one is the last by its time and, within the
time, by its place. -/
def Newest (records : List File) (owner : Owner) (file : File) : Prop :=
  ∃ place, records[place]? = some file ∧ file.owner = owner ∧
    ∀ (other : File) (otherPlace : Nat), records[otherPlace]? = some other →
      other.owner = owner → otherPlace ≠ place → Sooner (file, place) (other, otherPlace)

theorem owner_eq_iff : file.owner = owner ↔
    file.ownedBy owner.entityType owner.entityId = true ∧ file.owner.field = owner.field := by
  simp only [File.ownedBy, Bool.and_eq_true, beq_iff_eq]
  cases found : file.owner
  cases owner
  simp [and_assoc]

theorem find?_of_pairwise {α : Type} {R : α → α → Prop} (asymm : ∀ {a b}, R a b → ¬ R b a)
    {items : List α} (ordered : items.Pairwise R) {p : α → Bool} {first : α} :
    items.find? p = some first ↔
      first ∈ items ∧ p first = true ∧ ∀ other ∈ items, p other = true → other ≠ first →
        R first other := by
  have stands {first : α} (found : items.find? p = some first) :
      ∀ other ∈ items, p other = true → other ≠ first → R first other := by
    intro other member fits different
    obtain ⟨-, before, behind, rfl, none⟩ := List.find?_eq_some_iff_append.1 found
    rcases List.mem_append.1 member with early | late
    · have unfit := none other early
      rw [fits] at unfit
      cases unfit
    · have later := (List.mem_cons.1 late).resolve_left different
      exact List.rel_of_pairwise_cons (List.pairwise_append.1 ordered).2.1 later
  constructor
  · intro found
    exact ⟨List.mem_of_find?_eq_some found, List.find?_some found, stands found⟩
  · rintro ⟨member, fits, before⟩
    cases found : items.find? p with
    | none => exact absurd fits (List.find?_eq_none.1 found first member)
    | some other =>
      by_contra different
      have different : first ≠ other := fun same => different (congrArg some same.symm)
      have one := stands found first member fits different
      have another := before other (List.mem_of_find?_eq_some found) (List.find?_some found)
        different.symm
      exact asymm one another

theorem current?_eq_some_iff :
    files.current? owner = some file ↔ Newest files.records owner file := by
  obtain ⟨placed, listed, perm, ordered⟩ :=
    newestFirst_ofEntity files owner.entityType owner.entityId
  have member (entry : File × Nat) : entry ∈ placed ∧ entry.1.owner.field = owner.field ↔
      files.records[entry.2]? = some entry.1 ∧ entry.1.owner = owner := by
    rw [perm.mem_iff, List.mem_filter, List.mem_zipIdx_iff_getElem?, owner_eq_iff, and_assoc]
  have found (entry : File × Nat) :
      placed.find? (fun entry => decide (entry.1.owner.field = owner.field)) = some entry ↔
        files.records[entry.2]? = some entry.1 ∧ entry.1.owner = owner ∧
          ∀ other : File × Nat, files.records[other.2]? = some other.1 → other.1.owner = owner →
            other ≠ entry → Sooner entry other := by
    rw [find?_of_pairwise Sooner.asymm ordered, ← and_assoc, decide_eq_true_eq, member, and_assoc]
    refine and_congr_right fun _ => and_congr_right fun _ => forall_congr' fun other => ?_
    rw [← and_imp, ← and_imp, decide_eq_true_eq, member, and_imp, and_imp]
  rw [current?, ← listed, List.find?_map, Option.map_eq_some_iff]
  constructor
  · rintro ⟨⟨_, place⟩, first, rfl⟩
    obtain ⟨here, own, before⟩ := (found _).1 first
    refine ⟨place, here, own, fun other otherPlace there same different => ?_⟩
    exact before (other, otherPlace) there same fun again => different (congrArg Prod.snd again)
  · rintro ⟨place, here, own, before⟩
    refine ⟨(file, place), (found _).2 ⟨here, own, fun other there same different => ?_⟩, rfl⟩
    refine before other.1 other.2 there same fun again => different ?_
    rw [again, here] at there
    exact Prod.ext (Option.some.inj there).symm again

theorem current?_eq_none_iff :
    files.current? owner = none ↔ ∀ file ∈ files.records, file.owner ≠ owner := by
  rw [current?, List.find?_eq_none]
  constructor
  · intro nothing file present own
    obtain ⟨listed, field⟩ := owner_eq_iff.1 own
    exact nothing file (mem_ofEntity.2 ⟨present, listed⟩) (decide_eq_true field)
  · intro nothing file listed field
    obtain ⟨present, own⟩ := mem_ofEntity.1 listed
    exact nothing file present (owner_eq_iff.2 ⟨own, of_decide_eq_true field⟩)

/-! ## Without the files of an entity -/

theorem countOfEntity_eq (files : Catalogue) (entityType entityId : String) :
    files.countOfEntity entityType entityId = (files.ofEntity entityType entityId).length := by
  rw [countOfEntity, ofEntity, List.length_mergeSort, List.filter_reverse, List.length_reverse]

theorem eraseOfEntity_eq (files : Catalogue) (entityType entityId : String) :
    files.eraseOfEntity entityType entityId =
      ⟨files.records.filter (· ∉ files.ofEntity entityType entityId)⟩ := by
  rw [eraseOfEntity]
  congr 1
  refine List.filter_congr fun file present => ?_
  simp [mem_ofEntity, present]

end Catalogue

open Catalogue

/-- In every state, the files of an entity are listed with the newest first; removing them removes
exactly those that are listed, leaves the others in their order and tells how many they were; and the
file that is found for an owner is its newest, if it has any. -/
theorem lookups_give_newest {env : Env} (reliable : env.outside.Reliable "files") (state : State) :
    (∀ entityType entityId, ∃ listed,
      (filesOfEntity env entityType entityId).runOn state =
          (.ok listed, state.noted (.findFilesOfEntity entityType entityId)) ∧
        NewestFirst state.files.records (·.ownedBy entityType entityId) listed ∧
        (deleteRecordsOfEntity env entityType entityId).runOn state =
          (.ok listed.length, { state.noted (.deleteFilesOfEntity entityType entityId) with
            files := ⟨state.files.records.filter (· ∉ listed)⟩ })) ∧
    ∀ owner, ∃ found,
      (currentFile env owner).runOn state = (.ok found, state.noted (.findCurrentFile owner)) ∧
        (∀ file, found = some file ↔ Newest state.files.records owner file) ∧
        (found = none ↔ ∀ file ∈ state.files.records, file.owner ≠ owner) := by
  constructor
  · intro entityType entityId
    refine ⟨state.files.ofEntity entityType entityId, ?_, newestFirst_ofEntity _ _ _, ?_⟩
    · rw [filesOfEntity, runOn_question, reliable.record _ _ rfl]
    · rw [runOn_deleteRecordsOfEntity, reliable.record _ _ rfl]
      dsimp only
      rw [countOfEntity_eq, eraseOfEntity_eq]
  · intro owner
    refine ⟨state.files.current? owner, ?_, fun file => current?_eq_some_iff, current?_eq_none_iff⟩
    rw [currentFile, runOn_question, reliable.record _ _ rfl]

def youngestNote : File := { noteAt 2 secondPath with createdAt := ⟨1, 0⟩ }

def lastNote : File := noteAt 4 ⟨"test", 1970, 1, "user", "u1", "d.txt", by decide⟩

/-- Three notes of one user, of which the second is the youngest, and one of another user. -/
def noted : Catalogue where
  records := [noteAt 1 firstPath, youngestNote,
    { noteAt 3 thirdPath with owner := ⟨"user", "u2", "note"⟩ }, lastNote]

theorem lookups_give_newest_noted :
    Env.plain.outside.Reliable "files" ∧
      ((filesOfEntity .plain "user" "u1").runOn { files := noted }).1 =
        .ok [youngestNote, lastNote, noteAt 1 firstPath] ∧
      NewestFirst noted.records (·.ownedBy "user" "u1")
        [youngestNote, lastNote, noteAt 1 firstPath] ∧
      ((deleteRecordsOfEntity .plain "user" "u1").runOn { files := noted }).1 = .ok 3 ∧
      ((currentFile .plain ⟨"user", "u1", "note"⟩).runOn { files := noted }).1 =
        .ok (some youngestNote) ∧
      Newest noted.records ⟨"user", "u1", "note"⟩ youngestNote := by
  have reliable : Env.plain.outside.Reliable "files" := Outside.plain_reliable "files"
  have sorted : noted.ofEntity "user" "u1" = [youngestNote, lastNote, noteAt 1 firstPath] := by
    have wanted : noted.records.reverse.filter (·.ownedBy "user" "u1") =
        [lastNote, youngestNote, noteAt 1 firstPath] := by decide
    have older : newerOrSame lastNote youngestNote = false := by decide
    have first : newerOrSame youngestNote (noteAt 1 firstPath) = true := by decide
    have same : newerOrSame lastNote (noteAt 1 firstPath) = true := by decide
    rw [ofEntity, wanted]
    simp [List.mergeSort, List.MergeSort.Internal.splitInTwo, older, first, same]
  obtain ⟨lists, finds⟩ := lookups_give_newest reliable { files := noted }
  obtain ⟨listed, asked, newestFirst, removed⟩ := lists "user" "u1"
  obtain ⟨found, current, newest, -⟩ := finds ⟨"user", "u1", "note"⟩
  have answered := congrArg Prod.fst asked
  obtain rfl : noted.ofEntity "user" "u1" = listed := Except.ok.inj answered
  obtain rfl : noted.current? ⟨"user", "u1", "note"⟩ = found :=
    Except.ok.inj (congrArg Prod.fst current)
  have first : noted.current? ⟨"user", "u1", "note"⟩ = some youngestNote := by
    rw [current?, sorted]
    rfl
  rw [sorted] at answered newestFirst removed
  rw [first] at current newest
  exact ⟨reliable, answered, newestFirst, congrArg Prod.fst removed, congrArg Prod.fst current,
    (newest _).1 rfl⟩

end Files

end Depot
