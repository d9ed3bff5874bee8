import Depot.Proofs.Files.Intake

/-!
# One turn of the holdings

Whatever a use case does to files comes to one of two turns: some files leave, or some
leave and one joins.  From this alone follows what every step of the service keeps: that
records are backed by their contents, that there are no other contents, that a record
lies at a place of its owner, and that identifiers are those drawn so far.
-/

set_option autoImplicit false

namespace Depot

open Files (File)

namespace Files

theorem Path.make_ok {environment entityType entityId filename : String} {year : Int32}
    {month : Nat} {path : Path}
    (made : Path.make environment year month entityType entityId filename = .ok path) :
    path.environment = environment ∧ path.year = year ∧ path.month = month ∧
      path.entityType = entityType ∧ path.entityId = entityId ∧ path.filename = filename := by
  unfold Path.make at made
  split at made
  · rw [Except.ok.injEq] at made
    rw [← made]
    simp
  · cases made

section Placing

variable {env : Env} {request : UploadRequest} {path : Path}

theorem build_of_placeFor (place : placeFor env request = .ok path) :
    Path.build request.owner request.filename request.environment env.now = .ok path := by
  unfold placeFor at place
  cases built : Path.build request.owner request.filename request.environment env.now with
  | error fault =>
    rw [built] at place
    cases place
  | ok made =>
    rw [built] at place
    rw [Except.ok.inj place]

theorem placeFor_ok (place : placeFor env request = .ok path) :
    path.environment = request.environment ∧ path.entityType = request.owner.entityType ∧
      path.entityId = request.owner.entityId ∧ path.filename = request.filename := by
  obtain ⟨environment, -, -, rest⟩ := Path.make_ok (build_of_placeFor place)
  exact ⟨environment, rest⟩

end Placing

end Files

namespace Holdings

/-- What it takes for a file to join with its content: identifier and place are new, the
content is the one uploaded for it and the one described, and the place is the owner's. -/
structure Admits (holdings : Holdings) (calls : List Call) (file : File)
    (content : Blobs.Content) : Prop where
  newId : ∀ other ∈ holdings.records, other.id ≠ file.id
  newPath : ∀ other ∈ holdings.records, other.path ≠ file.path
  uploaded : uploadedFor file.id calls = some content
  size : content.bytes.size = file.metadata.size
  mimeType : content.mimeType = file.metadata.mimeType
  entityType : file.path.entityType = file.owner.entityType
  entityId : file.path.entityId = file.owner.entityId

/-- Every record lies at a place of its owner. -/
def Owned (holdings : Holdings) : Prop :=
  ∀ file ∈ holdings.records,
    file.path.entityType = file.owner.entityType ∧ file.path.entityId = file.owner.entityId

end Holdings

/-- A turn: files leave, and one with a drawn identifier may join. -/
inductive Turn (env : Env) (drawn : Uuid → Prop) (before after : State) : Prop
  | leave (gone : File → Bool)
    (cleared : before.holdings.Cleared gone (RemovalFailed env before after) after.holdings)
  | join (gone : File → Bool) (left : Holdings) (file : File) (content : Blobs.Content)
    (cleared : before.holdings.Cleared gone (RemovalFailed env before after) left)
    (admits : left.Admits after.calls file content) (new : drawn file.id)
    (joined : after.holdings = left.join file content)

/-- The state of the file stores after any number of turns: contents are in memory, the
records are backed and lie at places of their owners, and their identifiers were issued. -/
structure State.Sound (issued : Uuid → Prop) (state : State) : Prop where
  inMemory : state.InMemory
  backed : state.holdings.Backed state.calls
  owned : state.holdings.Owned
  known : ∀ file ∈ state.files.records, issued file.id

namespace Turn

variable {env : Env} {drawn issued : Uuid → Prop} {before after : State}

theorem nothing (same : after.holdings = before.holdings) : Turn env drawn before after := by
  refine .leave (fun _ => false) ?_
  rw [same]
  exact .nobody _

theorem widen {first last : State} (start : Frame.sparingFiles.Allows first before)
    (turn : Turn env drawn before after) (finish : Frame.sparingFiles.Allows after last) :
    Turn env drawn first last := by
  have early := Frame.holdings_of_sparingFiles start
  have late := Frame.holdings_of_sparingFiles finish
  obtain ⟨-, -, sooner, soonerCalls, -⟩ := start
  obtain ⟨-, -, added, laterCalls, spares⟩ := finish
  have wider (path : String) (lost : RemovalFailed env before after path) :
      RemovalFailed env first last path :=
    lost.widen ⟨sooner, soonerCalls.symm⟩ ⟨added, laterCalls.symm⟩
  cases turn with
  | leave gone cleared =>
    refine .leave gone ?_
    rw [late, ← early]
    exact cleared.mono wider
  | join gone left file content cleared admits new joined =>
    refine .join gone left file content (early ▸ cleared.mono wider) { admits with uploaded := ?_ }
      new (late.trans joined)
    rw [laterCalls, ← admits.uploaded]
    exact uploadedFor_append (fun call member => Call.creates_of_stores (spares call member) _) _

theorem sound (turn : Turn env drawn before after)
    (moved : (Frame.making drawn).Allows before after)
    (fresh : ∀ id, drawn id → ¬ issued id) (sound : before.Sound issued) :
    after.Sound fun id => issued id ∨ drawn id := by
  have inMemory : after.InMemory := moved.1 sound.inMemory
  have kept {left : Holdings} {gone : File → Bool} {failed : String → Prop}
      (cleared : before.holdings.Cleared gone failed left) :
      left.Backed after.calls ∧ left.Owned ∧ ∀ file ∈ left.records, issued file.id := by
    have among : ∀ file ∈ left.records, file ∈ before.files.records := by
      intro file member
      rw [cleared.records] at member
      exact (List.mem_filter.1 member).1
    refine ⟨(cleared.backed sound.backed).later fun file member => ?_,
      fun file member => sound.owned file (among file member),
      fun file member => sound.known file (among file member)⟩
    exact Frame.uploadedFor_of_making moved fun again =>
      fresh _ again (sound.known file (among file member))
  cases turn with
  | leave gone cleared =>
    obtain ⟨backed, owned, known⟩ := kept cleared
    exact ⟨inMemory, backed, owned, fun file member => .inl (known file member)⟩
  | join gone left file content cleared admits new joined =>
    obtain ⟨backed, owned, known⟩ := kept cleared
    have records : after.files.records = left.records ++ [file] := congrArg Holdings.records joined
    refine ⟨inMemory, ?_, ?_, ?_⟩
    · rw [joined]
      exact backed.join admits.newId admits.newPath admits.uploaded admits.size admits.mimeType
    · intro other member
      rw [joined] at member
      rcases List.mem_append.1 member with present | last
      · exact owned other present
      · obtain rfl : other = file := by simpa using last
        exact ⟨admits.entityType, admits.entityId⟩
    · intro other member
      rw [records] at member
      rcases List.mem_append.1 member with present | last
      · exact .inl (known other present)
      · obtain rfl : other = file := by simpa using last
        exact .inr new

theorem exact (turn : Turn env drawn before after) (reliable : env.outside.Reliable "storage")
    (exact : before.holdings.Exact) : after.holdings.Exact := by
  cases turn with
  | leave gone cleared =>
    exact cleared.exact exact fun path => RemovalFailed.not_of_reliable reliable
  | join gone left file content cleared admits new joined =>
    rw [joined]
    exact (cleared.exact exact fun path => RemovalFailed.not_of_reliable reliable).join file content

end Turn

/-! ## The turn of an upload -/

namespace Files

variable {env : Env} {state : State}

theorem Plan.Fits.admits {made : Plan} {request : UploadRequest} {id : Uuid} {left : Holdings}
    {failed : String → Prop} {calls : List Call} (fits : made.Fits id state.files.records)
    (place : placeFor env request = .ok made.path)
    (cleared : state.holdings.Cleared (fun other => made.existing.any (other.id = ·.id)) failed left)
    (uploaded : uploadedFor id calls = some made.content) :
    left.Admits calls (made.file env request id).detached made.content where
  newId other member := by
    rw [cleared.records] at member
    exact fits.fresh other (List.mem_filter.1 member).1
  newPath other member here := by
    rw [cleared.records] at member
    obtain ⟨present, stays⟩ := List.mem_filter.1 member
    rw [fits.place other present here] at stays
    simp at stays
  uploaded := uploaded
  size := rfl
  mimeType := rfl
  entityType := (placeFor_ok place).2.1
  entityId := (placeFor_ok place).2.2.1

theorem Upload.turn {drawn : Uuid → Prop} {request : UploadRequest} {id : Uuid} (new : drawn id)
    {ended : Except FileFailure (File × List Event) × State}
    (upload : Upload env request id state ended) {calls : List Call}
    (backed : state.holdings.Backed calls) : Turn env drawn state ended.2 := by
  rcases upload with ⟨failure, -, same⟩ | ⟨made, place, fits, intake⟩
  · exact .nothing same
  · rcases intake with ⟨failure, -, same | ⟨old, existing, left⟩⟩ |
      ⟨-, uploaded, left, joined, cleared⟩
    · exact .nothing same
    · refine .leave (·.id = old.id) ?_
      rw [left]
      exact backed.clear (fits.existing old existing)
    · exact .join _ left _ _ cleared (fits.admits place cleared uploaded) new joined

theorem turn_upload (reliable : env.outside.Reliable "files") (inMemory : state.InMemory)
    {calls : List Call} (backed : state.holdings.Backed calls) {drawn : Uuid → Prop} {id : Uuid}
    (new : drawn id) (fresh : ∀ other ∈ state.files.records, ¬ drawn other.id)
    (strategy : ReplaceStrategy) (request : UploadRequest) :
    Turn env drawn state ((upload env strategy request id).runOn state).2 := by
  have unused : ∀ other ∈ state.files.records, other.id ≠ id := by
    rintro other member rfl
    exact fresh other member new
  exact (upload_upload reliable inMemory backed unused strategy).turn new backed

end Files

/-! ## Clearing away -/

/-- Files leave and none joins: what the removals do, and everything that stores nothing. -/
def Frame.clearing (env : Env) : Frame where
  Allows before after := (making fun _ => False).Allows before after ∧
    (before.InMemory → ∀ calls, before.holdings.Backed calls →
      ∃ gone, before.holdings.Cleared gone (RemovalFailed env before after) after.holdings)
  stay state := ⟨(making _).stay state, fun _ _ _ => ⟨_, .nobody _⟩⟩
  chain := by
    rintro first second third ⟨early, earlyClears⟩ ⟨late, lateClears⟩
    refine ⟨(making _).chain early late, fun inMemory calls backed => ?_⟩
    obtain ⟨gone, cleared⟩ := earlyClears inMemory calls backed
    obtain ⟨more, cleared'⟩ := lateClears (early.1 inMemory) calls (cleared.backed backed)
    refine ⟨_, .trans (cleared.mono fun path lost => ?_) (cleared'.mono fun path lost => ?_)⟩
    · exact lost.widen List.suffix_rfl (calls_of_making late)
    · exact lost.widen (calls_of_making early) List.suffix_rfl

namespace Frame

variable {env : Env} {before after : State}

theorem clearing_of_sparing (spared : sparingFiles.Allows before after) :
    (clearing env).Allows before after := by
  refine ⟨making_of_sparingFiles spared, fun _ _ _ => ⟨fun _ => false, ?_⟩⟩
  rw [holdings_of_sparingFiles spared]
  exact .nobody _

theorem turn_of_clearing {drawn : Uuid → Prop} (cleared : (clearing env).Allows before after)
    (inMemory : before.InMemory) {calls : List Call} (backed : before.holdings.Backed calls) :
    Turn env drawn before after := by
  obtain ⟨gone, cleared⟩ := cleared.2 inMemory calls backed
  exact .leave gone cleared

end Frame

namespace Files

variable {env : Env} (reliable : env.outside.Reliable "files")

include reliable

theorem clears_remove (id : Uuid) : (remove env id).Keeps (.clearing env) := fun state =>
  ⟨(keeps_remove env id state).1, fun inMemory _ backed =>
    (remove_removal reliable inMemory backed id).cleared backed _⟩

theorem clears_removeOfOwner (owner : Owner) (correlation : Uuid) :
    (removeOfOwner env owner correlation).Keeps (.clearing env) := fun state =>
  ⟨(keeps_removeOfOwner env owner correlation state).1, fun inMemory _ backed =>
    (removeOfOwner_removal reliable inMemory backed owner correlation).cleared backed _⟩

/-- The files of a user are cleared away unless a failed removal may stop it. -/
theorem clears_removeOfUser (policy : CascadePolicy) (user : Uuid)
    (calm : policy.continueOnItemFailure = true ∨ env.outside.Reliable "storage") :
    (removeOfUser env policy user).Keeps (.clearing env) := by
  refine fun state => ⟨(keeps_removeOfUser env policy user state).1, fun inMemory _ backed => ?_⟩
  rcases removeOfUser_purge env inMemory backed policy user with
    ⟨failure, -, stopped⟩ | ⟨count, -, cleared, -⟩
  · obtain ⟨stops, path, lost⟩ := stopped reliable
    rcases calm with goesOn | quiet
    · rw [goesOn] at stops
      contradiction
    · exact absurd lost (RemovalFailed.not_of_reliable quiet)
  · exact ⟨_, cleared⟩

end Files

end Depot
