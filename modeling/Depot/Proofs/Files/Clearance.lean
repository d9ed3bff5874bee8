import Depot.Files.Removal
import Depot.Proofs.Files.Catalogue
import Depot.Proofs.Files.Filing

/-!
# Removing files

A removal that ends well clears files away: their records are gone, and so are their
contents, but for those whose removal has failed.  Where records take every write,
one file is either cleared away or nothing has changed; the files of a user are
cleared away together unless a failed removal stops it.
-/

set_option autoImplicit false

namespace Depot

open Files (File)

/-- A call between two states to remove the content at a path has failed. -/
def RemovalFailed (env : Env) (before after : State) (path : String) : Prop :=
  ∃ earlier, .deleteBlob path :: earlier <:+ after.calls ∧ before.calls <:+ earlier ∧
    (env.outside.backendFault (.deleteBlob path :: earlier)).isSome

namespace RemovalFailed

variable {env : Env} {before after : State} {path : String}

theorem widen {sooner later : State} (failed : RemovalFailed env before after path)
    (start : sooner.calls <:+ before.calls) (finish : after.calls <:+ later.calls) :
    RemovalFailed env sooner later path := by
  obtain ⟨earlier, called, since, fault⟩ := failed
  exact ⟨earlier, called.trans finish, start.trans since, fault⟩

theorem split {call : Call} (failed : RemovalFailed env before after path)
    (called : call :: before.calls <:+ after.calls) :
    (call = .deleteBlob path ∧ (env.outside.backendFault (call :: before.calls)).isSome) ∨
      RemovalFailed env (before.noted call) after path := by
  obtain ⟨earlier, refused, since, fault⟩ := failed
  by_cases first : earlier.length = before.calls.length
  · have same : before.calls = earlier := since.eq_of_length first.symm
    subst same
    have whole : call :: before.calls = .deleteBlob path :: before.calls :=
      (List.suffix_of_suffix_length_le called refused (by simp)).eq_of_length (by simp)
    rw [whole]
    exact .inl ⟨(List.cons.inj whole).1, fault⟩
  · refine .inr ⟨earlier, refused, ?_, fault⟩
    refine List.suffix_of_suffix_length_le called ((List.suffix_cons _ _).trans refused) ?_
    have longer := since.length_le
    rw [State.noted_calls, List.length_cons]
    omega

theorem before_last {call : Call} {middle : State} (failed : RemovalFailed env before after path)
    (last : after.calls = call :: middle.calls) (other : call ≠ .deleteBlob path) :
    RemovalFailed env before middle path := by
  obtain ⟨earlier, called, since, fault⟩ := failed
  rw [last] at called
  rcases List.suffix_cons_iff.1 called with whole | part
  · exact absurd (List.cons.inj whole).1.symm other
  · exact ⟨earlier, part, since, fault⟩

theorem not_refl (env : Env) (state : State) (path : String) :
    ¬ RemovalFailed env state state path := by
  rintro ⟨earlier, called, since, -⟩
  exact @not_passed_refl state.calls (fun _ => True) ⟨_, _, called, since, trivial⟩

theorem not_of_reliable (reliable : env.outside.Reliable "storage") :
    ¬ RemovalFailed env before after path := by
  rintro ⟨earlier, -, -, fault⟩
  rw [reliable.backend (.deleteBlob path) earlier rfl] at fault
  contradiction

end RemovalFailed

theorem Frame.calls_of_making {makes : Uuid → Prop} {before after : State}
    (moved : (making makes).Allows before after) : before.calls <:+ after.calls := by
  obtain ⟨-, added, calls, -⟩ := moved
  exact ⟨added, calls.symm⟩

namespace Holdings

/-- Files have left together with their contents, but for those whose removal failed. -/
def Cleared (before : Holdings) (gone : File → Bool) (failed : String → Prop)
    (after : Holdings) : Prop :=
  ∃ removed, after = before.leave gone removed ∧ before.Theirs gone removed ∧
    ∀ file ∈ before.records, gone file = true →
      file.path.text ∈ removed ∨ failed file.path.text

variable {before after : Holdings} {gone : File → Bool} {failed : String → Prop}
  {calls : List Call}

theorem leave_nobody (holdings : Holdings) : holdings.leave (fun _ => false) [] = holdings := by
  cases holdings
  simp [Holdings.leave]

theorem leave_leave (holdings : Holdings) (first second : File → Bool) (early late : List String) :
    (holdings.leave first early).leave second late =
      holdings.leave (fun file => first file || second file) (early ++ late) := by
  simp only [Holdings.leave, List.filter_filter, Holdings.mk.injEq]
  constructor
  · congr 1
    funext file
    cases first file <;> cases second file <;> rfl
  · funext path
    by_cases inEarly : path ∈ early <;> by_cases inLate : path ∈ late <;> simp [inEarly, inLate]

theorem Cleared.nobody (holdings : Holdings) :
    holdings.Cleared (fun _ => false) failed holdings :=
  ⟨[], (leave_nobody holdings).symm, by simp [Theirs], by simp⟩

theorem Cleared.backed (cleared : before.Cleared gone failed after)
    (backed : before.Backed calls) : after.Backed calls := by
  obtain ⟨removed, rfl, theirs, -⟩ := cleared
  exact backed.leave theirs

theorem Cleared.exact (cleared : before.Cleared gone failed after) (exact : before.Exact)
    (reliable : ∀ path, ¬ failed path) : after.Exact := by
  obtain ⟨removed, rfl, theirs, all⟩ := cleared
  exact exact.leave theirs fun file member leaves =>
    (all file member leaves).resolve_right (reliable _)

theorem Cleared.records (cleared : before.Cleared gone failed after) :
    after.records = before.records.filter (!gone ·) := by
  obtain ⟨removed, rfl, -⟩ := cleared
  rfl

theorem Cleared.mono {wider : String → Prop} (cleared : before.Cleared gone failed after)
    (more : ∀ path, failed path → wider path) : before.Cleared gone wider after := by
  obtain ⟨removed, same, theirs, all⟩ := cleared
  exact ⟨removed, same, theirs, fun file member leaves =>
    (all file member leaves).imp_right (more _)⟩

theorem Cleared.trans {last : Holdings} {more : File → Bool}
    (first : before.Cleared gone failed after) (second : after.Cleared more failed last) :
    before.Cleared (fun file => gone file || more file) failed last := by
  obtain ⟨early, rfl, theirs, all⟩ := first
  obtain ⟨late, rfl, theirs', all'⟩ := second
  have stays (file : File) (member : file ∈ before.records) (kept : gone file = false) :
      file ∈ (before.leave gone early).records := List.mem_filter.2 ⟨member, by simp [kept]⟩
  refine ⟨early ++ late, leave_leave _ _ _ _ _, fun file member lost => ?_,
    fun file member leaves => ?_⟩
  · cases kept : gone file with
    | true => simp [kept]
    | false =>
      rcases List.mem_append.1 lost with lost | lost
      · rw [theirs file member lost] at kept
        contradiction
      · simpa [kept] using theirs' file (stays file member kept) lost
  · cases kept : gone file with
    | true => exact (all file member kept).imp_left fun lost => List.mem_append_left _ lost
    | false =>
      have later : more file = true := by simpa [kept] using leaves
      exact (all' file (stays file member kept) later).imp_left fun lost =>
        List.mem_append_right _ lost

theorem Backed.clear (backed : before.Backed calls) {old : File} (member : old ∈ before.records) :
    before.Cleared (·.id = old.id) failed (before.leave (·.id = old.id) [old.path.text]) := by
  refine ⟨_, rfl, ?_, ?_⟩
  · intro file present here
    have same : file = old := backed.eq_of_text present member (by simpa using here)
    simp [same]
  · intro file present leaves
    have same : file = old := backed.eq_of_id present member (by simpa using leaves)
    simp [same]

theorem leave_erase (records : List File) (blobs : Blobs.Memory) (gone : File → Bool)
    (path : String) :
    Holdings.leave ⟨records, blobs.get?⟩ gone [path] =
      ⟨records.filter (!gone ·), (blobs.erase path).get?⟩ := by
  simp only [Holdings.leave, Blobs.Memory.get?_erase, List.mem_singleton, Holdings.mk.injEq,
    true_and]
  funext other
  by_cases here : other = path
  · simp [here]
  · simp [here]

section Join

variable (records : List File) (blobs : Blobs.Memory) (gone : File → Bool) (file : File)
  (content : Blobs.Content)

theorem join_put :
    Holdings.join ⟨records, blobs.get?⟩ file content =
      ⟨records ++ [file], (blobs.put file.path.text content).get?⟩ := by
  rw [Holdings.join, Blobs.Memory.get?_put]

theorem leave_join_put :
    (Holdings.leave ⟨records, blobs.get?⟩ gone []).join file content =
      ⟨records.filter (!gone ·) ++ [file], (blobs.put file.path.text content).get?⟩ := by
  simp [Holdings.join, Holdings.leave, Blobs.Memory.get?_put]

theorem leave_join_here :
    (Holdings.leave ⟨records, blobs.get?⟩ gone [file.path.text]).join file content =
      ⟨records.filter (!gone ·) ++ [file], (blobs.put file.path.text content).get?⟩ := by
  rw [leave_erase, join_put, Blobs.Memory.get?_put, Blobs.Memory.get?_put,
    Blobs.Memory.get?_erase, Function.update_idem]

theorem leave_join_elsewhere {path : String} (elsewhere : path ≠ file.path.text) :
    (Holdings.leave ⟨records, blobs.get?⟩ gone [path]).join file content =
      ⟨records.filter (!gone ·) ++ [file],
        ((blobs.put file.path.text content).erase path).get?⟩ := by
  rw [leave_erase, join_put, Blobs.Memory.get?_put, Blobs.Memory.get?_erase,
    Blobs.Memory.get?_erase, Blobs.Memory.get?_put, Function.update_comm elsewhere]

end Join

end Holdings

namespace Files

open Act

variable {env : Env} {state after : State}

/-! ## One file -/

theorem runOn_removeFile (reliable : env.outside.Reliable "files") {blobs : Blobs.Memory}
    (inMemory : state.blobs = .memory blobs) (file : File) :
    (removeFile env file).runOn state =
      match env.outside.backendFault (.deleteBlob file.path.text :: state.calls) with
      | some failure =>
        (.error (.ofBackend failure), state.noted (.deleteBlob file.path.text))
      | none => (.ok (), { (state.noted (.deleteBlob file.path.text)).noted (.deleteFile file.id) with
          files := state.files.erase file.id
          blobs := .memory (blobs.erase file.path.text) }) := by
  rw [removeFile, runOn_bind]
  simp only [onServices, onRecords, runOn_mapFailure, runOn_deleteBlob env inMemory]
  cases env.outside.backendFault (.deleteBlob file.path.text :: state.calls) with
  | some failure => rfl
  | none =>
    simp only [mapError_ok, runOn_bind, runOn_mapFailure, runOn_deleteRecord, State.noted_calls]
    rw [reliable.record (.deleteFile file.id) _ rfl]
    rfl

/-- How the removal of one file may end: it fails and the holdings are the same, or the
file is gone with its content. -/
def Removal (state : State) (ended : Except FileFailure File × State) : Prop :=
  (∃ failure, ended.1 = .error failure ∧ ended.2.holdings = state.holdings) ∨
    ∃ file ∈ state.files.records, (∃ shown, ended.1 = .ok shown ∧ shown.id = file.id) ∧
      ended.2.holdings = state.holdings.leave (·.id = file.id) [file.path.text]

namespace Removal

variable {ended : Except FileFailure File × State}

theorem cleared (removal : Removal state ended) {calls : List Call}
    (backed : state.holdings.Backed calls) (failed : String → Prop) :
    ∃ gone, state.holdings.Cleared gone failed ended.2.holdings := by
  rcases removal with ⟨-, -, same⟩ | ⟨file, member, -, left⟩
  · rw [same]
    exact ⟨_, .nobody _⟩
  · rw [left]
    exact ⟨_, backed.clear member⟩

theorem failed {failure : FileFailure} (spared : Frame.sparing.Allows state after) :
    Removal state (.error failure, after) :=
  .inl ⟨failure, rfl, Frame.holdings_of_sparingFiles spared.1⟩

theorem after_sparing (spared : Frame.sparing.Allows state after)
    (removal : Removal after ended) : Removal state ended := by
  have same := Frame.holdings_of_sparingFiles spared.1
  have files : after.files = state.files := spared.1.1
  rw [Removal, same, files] at removal
  exact removal

end Removal

/-- One file is cleared away, or its removal has changed nothing. -/
theorem removeFile_cases (reliable : env.outside.Reliable "files") (inMemory : state.InMemory)
    {calls : List Call} (backed : state.holdings.Backed calls) {file : File}
    {result : Except FileFailure Unit} (ran : (removeFile env file).runOn state = (result, after)) :
    (∃ failure, result = .error failure ∧ after.holdings = state.holdings) ∨
      result = .ok () ∧ after.InMemory ∧
        after.holdings = state.holdings.leave (·.id = file.id) [file.path.text] := by
  obtain ⟨blobs, inMemory⟩ := inMemory
  rw [runOn_removeFile reliable inMemory] at ran
  cases fault : env.outside.backendFault (.deleteBlob file.path.text :: state.calls) with
  | some failure =>
    rw [fault, Prod.mk.injEq] at ran
    obtain ⟨rfl, rfl⟩ := ran
    exact .inl ⟨_, rfl, rfl⟩
  | none =>
    rw [fault, Prod.mk.injEq] at ran
    obtain ⟨rfl, rfl⟩ := ran
    refine .inr ⟨rfl, ⟨_, rfl⟩, ?_⟩
    rw [State.holdings_eq inMemory, Holdings.leave_erase, State.holdings_eq rfl,
      Catalogue.erase_eq_filter _ backed.ids]
    simp

theorem removeFile_removal (reliable : env.outside.Reliable "files")
    (inMemory : state.InMemory) {calls : List Call} (backed : state.holdings.Backed calls)
    {file shown : File} (member : file ∈ state.files.records)
    (sameId : shown.id = file.id) (samePath : shown.path = file.path) :
    Removal state ((do removeFile env shown; return shown : Act FileFailure File).runOn state) := by
  refine bind_cases (fun failure middle ran => ?_) fun _ middle ran => ?_
  · rcases removeFile_cases reliable inMemory backed ran with ⟨_, -, same⟩ | ⟨bad, -⟩
    · exact .inl ⟨failure, rfl, same⟩
    · cases bad
  · rcases removeFile_cases reliable inMemory backed ran with ⟨_, bad, -⟩ | ⟨-, -, left⟩
    · cases bad
    · rw [sameId, samePath] at left
      exact .inr ⟨file, member, ⟨shown, rfl, sameId⟩, left⟩

theorem locate_ok {locator : Locator} {file : File}
    (ran : (locate env locator).runOn state = (.ok file, after)) :
    file ∈ state.files.records := by
  have found := locate_found ran
  cases locator with
  | byId id => exact List.mem_of_find?_eq_some found
  | byOwner owner => exact (Catalogue.mem_of_current? found).1

theorem spared_of_run {ε α : Type} {act : Act ε α} (spares : act.Keeps .sparing)
    {result : Except ε α} (ran : act.runOn state = (result, after)) :
    Frame.sparing.Allows state after := spares.allows ran

theorem remove_removal (reliable : env.outside.Reliable "files") (inMemory : state.InMemory)
    {calls : List Call} (backed : state.holdings.Backed calls) (id : Uuid) :
    Removal state ((remove env id).runOn state) := by
  refine bind_cases (fun failure middle ran => ?_) fun file middle ran => ?_
  · exact .failed (spared_of_run (keeps_locate env _).spares ran)
  · have spared := spared_of_run (keeps_locate env _).spares ran
    have same := Frame.holdings_of_sparingFiles spared.1
    have member : file ∈ middle.files.records := by
      rw [spared.1.1]
      exact locate_ok ran
    refine .after_sparing spared (removeFile_removal reliable ?_ (same ▸ backed) member rfl rfl)
    exact Frame.inMemory_of_sparing spared inMemory

theorem removeOfOwner_removal (reliable : env.outside.Reliable "files")
    (inMemory : state.InMemory) {calls : List Call} (backed : state.holdings.Backed calls)
    (owner : Owner) (correlation : Uuid) :
    Removal state ((removeOfOwner env owner correlation).runOn state) := by
  refine bind_cases (fun failure first ran => ?_) fun file first located => ?_
  · exact .failed (spared_of_run (keeps_locate env _).spares ran)
  refine bind_cases (fun failure second ran => ?_) fun shown second marked => ?_
  · cases ran
  have spared := Frame.sparing.chain (spared_of_run (keeps_locate env _).spares located)
    (spared_of_run (keeps_markPending _) marked)
  refine bind_cases (fun failure third ran => ?_) fun _ third told => ?_
  · exact .failed (Frame.sparing.chain spared
      (spared_of_run (.mapFailure _ (keeps_dispatch env _)) ran))
  have spared := Frame.sparing.chain spared
    (spared_of_run (.mapFailure _ (keeps_dispatch env _)) told)
  have same := Frame.holdings_of_sparingFiles spared.1
  have member : file ∈ third.files.records := by
    rw [spared.1.1]
    exact locate_ok located
  obtain ⟨_, _, _, shows⟩ := of_bind_ok marked
  obtain rfl : (file.markDeleted correlation env.now).detached = shown := by
    simpa using congrArg Prod.fst shows
  refine .after_sparing spared (removeFile_removal reliable ?_ (same ▸ backed) member rfl rfl)
  exact Frame.inMemory_of_sparing spared inMemory

/-! ## The files of a user -/

/-- What is left after some contents have been removed one after the other: the records
are the same, a content is gone exactly if its removal has not failed, and only a policy
that stops at a failure stops. -/
structure Sweep (env : Env) (policy : CascadePolicy) (files : List File) (state : State)
    (removed : List String) (ended : Except FileFailure Unit × State) : Prop where
  left : ended.2.holdings = state.holdings.leave (fun _ => false) removed
  theirs : ∀ path ∈ removed, ∃ file ∈ files, file.path.text = path
  tried : ∀ path, RemovalFailed env state ended.2 path → ∃ file ∈ files, file.path.text = path
  all : ended.1 = .ok () → ∀ file ∈ files,
    file.path.text ∈ removed ∨ RemovalFailed env state ended.2 file.path.text
  kept : (files.map (·.path.text)).Nodup → ∀ path ∈ removed,
    ¬ RemovalFailed env state ended.2 path
  stops : ∀ failure, ended.1 = .error failure →
    policy.continueOnItemFailure = false ∧ ∃ path, RemovalFailed env state ended.2 path

namespace Sweep

variable {policy : CascadePolicy} {file : File} {rest : List File} {removed : List String}
  {ended : Except FileFailure Unit × State}

theorem apart (texts : ((file :: rest).map (·.path.text)).Nodup) {middle : State}
    (swept : Sweep env policy rest middle removed ended) :
    file.path.text ∉ removed ∧ ¬ RemovalFailed env middle ended.2 file.path.text := by
  rw [List.map_cons, List.nodup_cons] at texts
  constructor
  · intro member
    obtain ⟨other, present, same⟩ := swept.theirs _ member
    exact texts.1 (List.mem_map.2 ⟨other, present, same⟩)
  · intro failed
    obtain ⟨other, present, same⟩ := swept.tried _ failed
    exact texts.1 (List.mem_map.2 ⟨other, present, same⟩)

theorem skip (goesOn : policy.continueOnItemFailure = true)
    (called : .deleteBlob file.path.text :: state.calls <:+ ended.2.calls)
    (failed : RemovalFailed env state ended.2 file.path.text)
    (swept : Sweep env policy rest (state.noted (.deleteBlob file.path.text)) removed ended) :
    Sweep env policy (file :: rest) state removed ended where
  left := swept.left
  theirs path member := by
    obtain ⟨other, present, same⟩ := swept.theirs path member
    exact ⟨other, .tail _ present, same⟩
  tried path lost := by
    rcases lost.split called with ⟨same, -⟩ | later
    · exact ⟨file, .head _, Call.deleteBlob.inj same⟩
    · obtain ⟨other, present, same⟩ := swept.tried path later
      exact ⟨other, .tail _ present, same⟩
  all well other member := by
    rcases List.mem_cons.1 member with rfl | member
    · exact .inr failed
    · exact (swept.all well other member).imp_right fun lost =>
        lost.widen (List.suffix_cons _ _) List.suffix_rfl
  kept texts path member lost := by
    rcases lost.split called with ⟨same, -⟩ | later
    · exact (swept.apart texts).1 (Call.deleteBlob.inj same ▸ member)
    · exact swept.kept (List.nodup_cons.1 texts).2 path member later
  stops failure stopped := by
    have stopping := (swept.stops failure stopped).1
    rw [goesOn] at stopping
    contradiction

theorem remove {blobs : Blobs.Memory} (inMemory : state.blobs = .memory blobs)
    (called : .deleteBlob file.path.text :: state.calls <:+ ended.2.calls)
    (well : env.outside.backendFault (.deleteBlob file.path.text :: state.calls) = none)
    (swept : Sweep env policy rest { state.noted (.deleteBlob file.path.text) with
      blobs := .memory (blobs.erase file.path.text) } removed ended) :
    Sweep env policy (file :: rest) state (file.path.text :: removed) ended where
  left := by
    have first : state.holdings.leave (fun _ => false) [file.path.text] =
        ⟨state.files.records, (blobs.erase file.path.text).get?⟩ := by
      rw [State.holdings_eq inMemory, Holdings.leave_erase]
      simp
    rw [swept.left, State.holdings_eq rfl]
    dsimp only [State.noted]
    rw [← first, Holdings.leave_leave]
    rfl
  theirs path member := by
    rcases List.mem_cons.1 member with rfl | member
    · exact ⟨file, .head _, rfl⟩
    · obtain ⟨other, present, same⟩ := swept.theirs path member
      exact ⟨other, .tail _ present, same⟩
  tried path lost := by
    rcases lost.split called with ⟨-, fault⟩ | later
    · rw [well] at fault
      contradiction
    · obtain ⟨other, present, same⟩ := swept.tried path later
      exact ⟨other, .tail _ present, same⟩
  all well other member := by
    rcases List.mem_cons.1 member with rfl | member
    · exact .inl (.head _)
    · exact (swept.all well other member).imp (.tail _) fun lost =>
        lost.widen (List.suffix_cons _ _) List.suffix_rfl
  kept texts path member lost := by
    rcases lost.split called with ⟨-, fault⟩ | later
    · rw [well] at fault
      contradiction
    · rcases List.mem_cons.1 member with rfl | member
      · exact (swept.apart texts).2 later
      · exact swept.kept (List.nodup_cons.1 texts).2 path member later
  stops failure stopped := by
    obtain ⟨stopping, path, lost⟩ := swept.stops failure stopped
    exact ⟨stopping, path, lost.widen (List.suffix_cons _ _) List.suffix_rfl⟩

end Sweep

theorem sweep_removeContents (env : Env) (policy : CascadePolicy) (files : List File)
    (inMemory : state.InMemory) :
    ∃ removed, Sweep env policy files state removed
      ((removeContents env policy files).runOn state) := by
  induction files generalizing state with
  | nil =>
    refine ⟨[], (Holdings.leave_nobody _).symm, by simp, fun path failed => ?_, by simp, by simp,
      fun failure stopped => ?_⟩
    · exact absurd failed (RemovalFailed.not_refl env state path)
    · cases stopped
  | cons file rest ih =>
    obtain ⟨blobs, inMemory⟩ := inMemory
    have onward (middle : State) (next : middle.calls = .deleteBlob file.path.text :: state.calls) :
        .deleteBlob file.path.text :: state.calls <:+
          ((removeContents env policy rest).runOn middle).2.calls := by
      have moved : (Frame.filing fun _ => False).Allows _ _ :=
        keeps_removeContents env policy rest middle
      rw [← next]
      exact Frame.calls_of_making moved.1
    rw [removeContents, runOn_bind, runOn_outcome, runOn_deleteBlob env inMemory]
    cases fault : env.outside.backendFault (.deleteBlob file.path.text :: state.calls) with
    | none =>
      obtain ⟨removed, swept⟩ := @ih { state.noted (.deleteBlob file.path.text) with
        blobs := .memory (blobs.erase file.path.text) } ⟨_, rfl⟩
      exact ⟨_, .remove inMemory (onward _ rfl) fault swept⟩
    | some failure =>
      have failed (later : State)
          (called : .deleteBlob file.path.text :: state.calls <:+ later.calls) :
          RemovalFailed env state later file.path.text :=
        ⟨state.calls, called, List.suffix_rfl, by rw [fault]; rfl⟩
      dsimp only
      cases goesOn : policy.continueOnItemFailure with
      | true =>
        obtain ⟨removed, swept⟩ := @ih (state.noted (.deleteBlob file.path.text))
          ⟨blobs, inMemory⟩
        exact ⟨removed, .skip goesOn (onward _ rfl) (failed _ (onward _ rfl)) swept⟩
      | false =>
        refine ⟨[], (Holdings.leave_nobody _).symm, by simp, fun path lost => ?_, fun well => ?_,
          by simp, fun _ _ => ⟨goesOn, _, failed _ List.suffix_rfl⟩⟩
        · rcases lost.split List.suffix_rfl with ⟨same, -⟩ | later
          · exact ⟨file, .head _, Call.deleteBlob.inj same⟩
          · exact absurd later (RemovalFailed.not_refl env _ path)
        · cases well

/-- How the removal of the files of a user may end: it fails, which takes a failed removal if
records take every write, or the files are cleared away. -/
def Purge (env : Env) (policy : CascadePolicy) (user : Uuid) (state : State)
    (ended : Except FileFailure Nat × State) : Prop :=
  (∃ failure, ended.1 = .error failure ∧ (env.outside.Reliable "files" →
    policy.continueOnItemFailure = false ∧ ∃ path, RemovalFailed env state ended.2 path)) ∨
  ∃ count, ended.1 = .ok count ∧
    state.holdings.Cleared (·.ownedBy userEntity user.text) (RemovalFailed env state ended.2)
      ended.2.holdings ∧
    ∀ path, RemovalFailed env state ended.2 path → ended.2.content? path = state.content? path ∧
      ∃ file ∈ state.files.records, file.ownedBy userEntity user.text = true ∧
        file.path.text = path

theorem texts_of_ofEntity {records : List File} (texts : (records.map (·.path.text)).Nodup)
    (entityType entityId : String) :
    ((Catalogue.ofEntity ⟨records⟩ entityType entityId).map (·.path.text)).Nodup := by
  have sorted := (List.mergeSort_perm (records.reverse.filter (·.ownedBy entityType entityId))
    Catalogue.newerOrSame).map (·.path.text)
  refine sorted.nodup_iff.2 (List.Nodup.sublist (List.filter_sublist.map _) ?_)
  rw [List.map_reverse]
  exact List.nodup_reverse.2 texts

theorem removeOfUser_purge (env : Env) (inMemory : state.InMemory) {calls : List Call}
    (backed : state.holdings.Backed calls) (policy : CascadePolicy) (user : Uuid) :
    Purge env policy user state ((removeOfUser env policy user).runOn state) := by
  rw [removeOfUser, runOn_bind, onRecords, runOn_mapFailure, filesOfEntity, runOn_question]
  cases listing : env.outside.recordFault (.findFilesOfEntity userEntity user.text :: state.calls) with
  | some failure =>
    refine .inl ⟨_, rfl, fun reliable => ?_⟩
    rw [reliable.record (.findFilesOfEntity userEntity user.text) _ rfl] at listing
    contradiction
  | none =>
    obtain ⟨removed, swept⟩ : ∃ removed, Sweep env policy _ (state.noted _) removed _ :=
      sweep_removeContents env policy (state.files.ofEntity userEntity user.text) inMemory
    have since : state.calls <:+ (state.noted (.findFilesOfEntity userEntity user.text)).calls :=
      List.suffix_cons _ _
    refine bind_cases (fun failure middle ran => ?_) fun _ middle ran => ?_
    · rw [ran] at swept
      obtain ⟨stops, path, lost⟩ := swept.stops failure rfl
      exact .inl ⟨failure, rfl, fun _ => ⟨stops, path, lost.widen since List.suffix_rfl⟩⟩
    have moved : (Frame.filing fun _ => False).Allows _ _ :=
      keeps_removeContents env policy (state.files.ofEntity userEntity user.text)
        (state.noted (.findFilesOfEntity userEntity user.text))
    have onward := Frame.calls_of_making moved.1
    rw [ran] at swept onward
    have left : middle.holdings = state.holdings.leave (fun _ => false) removed := swept.left
    rw [onRecords, runOn_mapFailure, runOn_deleteRecordsOfEntity]
    cases erasing : env.outside.recordFault
        (.deleteFilesOfEntity userEntity user.text :: middle.calls) with
    | some failure =>
      refine .inl ⟨_, rfl, fun reliable => ?_⟩
      rw [reliable.record (.deleteFilesOfEntity userEntity user.text) _ rfl] at erasing
      contradiction
    | none =>
      have lost_iff {path : String} (lost : RemovalFailed env state
          (middle.noted (.deleteFilesOfEntity userEntity user.text)) path) :
          RemovalFailed env (state.noted (.findFilesOfEntity userEntity user.text)) middle path := by
        rcases (lost.before_last rfl (by simp)).split onward with ⟨other, -⟩ | later
        · cases other
        · exact later
      refine .inr ⟨_, rfl, ⟨removed, ?_, fun file member lost => ?_, fun file member owned => ?_⟩,
        fun path lost => ⟨?_, ?_⟩⟩
      · have last : (⟨(middle.files.eraseOfEntity userEntity user.text).records,
            middle.content?⟩ : Holdings) =
              middle.holdings.leave (·.ownedBy userEntity user.text) [] := by
          simp [Holdings.leave, State.holdings, Catalogue.eraseOfEntity]
        apply Eq.trans last
        rw [left, Holdings.leave_leave]
        simp
      · obtain ⟨other, listed, same⟩ := swept.theirs _ lost
        obtain ⟨present, owned⟩ := Catalogue.mem_ofEntity.1 listed
        rwa [backed.eq_of_text member present same.symm]
      · have listed := Catalogue.mem_ofEntity.2 ⟨member, owned⟩
        refine (swept.all rfl file listed).imp_right fun lost => ?_
        exact lost.widen since (List.suffix_cons _ _)
      · have kept := swept.kept (texts_of_ofEntity backed.texts _ _)
        have stays : path ∉ removed := fun member => kept path member (lost_iff lost)
        have same : middle.content? path = state.content? path := by
          have contents := congrFun (congrArg Holdings.content left) path
          simpa [Holdings.leave, State.holdings, stays] using contents
        exact same
      · obtain ⟨file, listed, same⟩ := swept.tried path (lost_iff lost)
        obtain ⟨present, owned⟩ := Catalogue.mem_ofEntity.1 listed
        exact ⟨file, present, owned, same⟩

end Files

end Depot
