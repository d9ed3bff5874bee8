import Depot.Proofs.Service.Telling

/-!
# Handlers are told what requests have done

A recorder of every topic is told of each user that is added or deleted on request, of
each file that is taken in, and of each file that is deleted as the current one of its
owner: in the order of the requests, once for each, and of nothing else.
-/

set_option autoImplicit false

namespace Depot

/-! ## Who is added -/

/-- Nobody joins the users. -/
def Frame.closed : Frame where
  Allows before after := ∀ user ∈ after.users.records,
    ∃ old ∈ before.users.records, old.id = user.id
  stay _ user member := ⟨user, member, rfl⟩
  chain := by
    intro first second third earlier later user member
    obtain ⟨middle, present, same⟩ := later user member
    obtain ⟨old, known, same'⟩ := earlier middle present
    exact ⟨old, known, same'.trans same⟩

namespace Frame

theorem closed_of_same {before after : State} (same : after.users = before.users) :
    closed.Allows before after := by
  intro user member
  exact ⟨user, same ▸ member, rfl⟩

theorem closed_files {recorded : Files.File → Prop} : closed.AdmitsFiles recorded where
  note _ _ _ _ := closed_of_same rfl
  insert _ _ _ _ _ := closed_of_same rfl
  thin _ _ _ := closed_of_same rfl
  change _ _ _ := closed_of_same rfl

theorem closed_fileEvents : closed.AdmitsFileEvents where
  tell _ _ _ := closed_of_same rfl
  turn _ _ _ := closed_of_same rfl

end Frame

theorem Accounts.closed_change (env : Env) (request : Change) : (change env request).Keeps .closed := by
  intro state
  have changed := changed_change env request state
  generalize (change env request).runOn state = ended at changed ⊢
  cases changed with
  | refused same => exact Frame.closed_of_same same
  | amended found amends later =>
    intro user member
    rw [later] at member
    rcases mem_replaceFirst member with rfl | present
    · exact ⟨_, List.mem_of_find?_eq_some found, amends.kept.1.symm⟩
    · exact ⟨user, present, rfl⟩

namespace Service

open Act

variable {name : String}

/-! ## One request -/

/-- An identifier that a part of a path writes. -/
def readUuid? (written : String) : Option Uuid := (decodePart? written).bind Uuid.parse?

/-- The owner that three parts of a path write. -/
def readOwner? (entityType entityId field : String) : Option Files.Owner := do
  return ⟨← decodePart? entityType, ← decodePart? entityId, ← decodePart? field⟩

theorem uuidPart_cases (written : String) (state : State) :
    (∃ id, readUuid? written = some id ∧ (uuidPart written).runOn state = (.ok id, state)) ∨
      readUuid? written = none ∧ ∃ refusal, (uuidPart written).runOn state = (.error refusal, state) := by
  unfold readUuid? uuidPart part
  cases decodePart? written with
  | none => exact .inr ⟨rfl, _, rfl⟩
  | some text =>
    cases read : Uuid.parse? text with
    | none => exact .inr ⟨read, .unreadable _, by rw [need, pure_bind, read]; rfl⟩
    | some id => exact .inl ⟨id, read, by rw [need, pure_bind, read]; rfl⟩

theorem ownerParts_cases (entityType entityId field : String) (state : State) :
    (∃ owner, readOwner? entityType entityId field = some owner ∧
        (ownerParts entityType entityId field).runOn state = (.ok owner, state)) ∨
      readOwner? entityType entityId field = none ∧
        ∃ refusal, (ownerParts entityType entityId field).runOn state = (.error refusal, state) := by
  unfold readOwner? ownerParts part
  cases decodePart? entityType with
  | none => exact .inr ⟨rfl, _, rfl⟩
  | some first =>
    cases decodePart? entityId with
    | none => exact .inr ⟨rfl, _, rfl⟩
    | some second =>
      cases decodePart? field with
      | none => exact .inr ⟨rfl, _, rfl⟩
      | some third => exact .inl ⟨_, rfl, rfl⟩

/-- A request with what surrounds it. -/
structure Visit where
  env : Env
  app : App
  drawn : Drawn
  request : Request

namespace Visit

/-- The state after the request has been answered. -/
def next (visit : Visit) (state : State) : State :=
  (answer visit.env visit.app visit.drawn visit.request state).2

/-- Whether the request is carried out. -/
def Succeeds (visit : Visit) (state : State) : Prop :=
  ∃ reply, ((act visit.env visit.app visit.drawn visit.request).runOn state).1 = .ok reply

/-- Whether there is nothing to delete, or the upload is not carried out. The rest either adds a
user, which `AddsNobody` rules out, or is never told of. -/
def Vain (visit : Visit) (before : State) : Wish → Prop
  | .deleteUser written =>
    ∀ id, readUuid? written = some id → before.users.findById? id = none
  | .upload .. => ¬ visit.Succeeds before
  | .clearSlot entityType entityId field =>
    ∀ owner, readOwner? entityType entityId field = some owner → before.files.current? owner = none
  | .createUser | .provisionUser | .changeUser _ | .deleteFile _ => True

/-- Whether nothing of what the request asks for is to be told. -/
def Fruitless (visit : Visit) (before : State) : Prop :=
  ∀ wish, visit.request.wish = some wish → visit.Vain before wish

/-- Whether every user there is after the request was there before. -/
def AddsNobody (visit : Visit) (before : State) : Prop :=
  Frame.closed.Allows before (visit.next before)

/-- The events that a request gives rise to, of accounts and of files. -/
inductive News (visit : Visit) (before : State) : List Accounts.Event → List Files.Event → Prop
  | userAdded (user : Accounts.User)
    (asked : visit.request.wish = some .createUser ∨ visit.request.wish = some .provisionUser)
    (new : ∀ other ∈ before.users.records, other.id ≠ user.id)
    (added : (visit.next before).users.records = before.users.records ++ [user]) :
    News visit before [.of user.id visit.drawn.correlation visit.env.now
      (.userCreated user.id user.username.text user.email)] []
  | userDeleted (written : String) (user : Accounts.User)
    (asked : visit.request.wish = some (.deleteUser written))
    (read : readUuid? written = some user.id) (found : before.users.findById? user.id = some user)
    (gone : (visit.next before).users = before.users.erase user.id) :
    News visit before [.of user.id visit.drawn.correlation visit.env.now (.userDeleted user.id)] []
  | fileUploaded (entityType entityId field : String) (file : Files.File)
    (asked : visit.request.wish = some (.upload entityType entityId field))
    (succeeds : visit.Succeeds before) (nobody : visit.AddsNobody before)
    (stored : (visit.next before).files.findById? visit.drawn.id = some file) :
    News visit before [] [.of file.id visit.drawn.correlation visit.env.now
      (.uploaded file.id file.owner file.path.text file.metadata.mimeType file.metadata.size)]
  | fileDeleted (entityType entityId field : String) (owner : Files.Owner) (file : Files.File)
    (asked : visit.request.wish = some (.clearSlot entityType entityId field))
    (read : readOwner? entityType entityId field = some owner)
    (found : before.files.current? owner = some file) (nobody : visit.AddsNobody before)
    (gone : (visit.next before).files = before.files.erase file.id) :
    News visit before [] [.of file.id visit.drawn.correlation visit.env.now
      (.deleted file.id file.owner file.path.text)]
  | nothing (nobody : visit.AddsNobody before) (fruitless : visit.Fruitless before) :
    News visit before [] []

/-- A recorder is told of what a request gives rise to. -/
def Tells (visit : Visit) (name : String) (before : State) : Prop :=
  ∃ accounts files, visit.News before accounts files ∧
    (visit.next before).accountLog name = before.accountLog name ++ accounts ∧
    (visit.next before).fileLog name = before.fileLog name ++ files

variable {visit : Visit} {name : String} {before : State}

theorem next_eq (visit : Visit) (state : State) :
    visit.next state = ((act visit.env visit.app visit.drawn visit.request).runOn state).2 :=
  answer_state ..

theorem Fruitless.of_wish {wish : Wish} (asked : visit.request.wish = some wish)
    (vain : visit.Vain before wish) : visit.Fruitless before := by
  intro other same
  obtain rfl := Option.some.inj (asked.symm.trans same)
  exact vain

theorem Tells.nothing (accounts : (visit.next before).accountLog name = before.accountLog name)
    (files : (visit.next before).fileLog name = before.fileLog name)
    (nobody : visit.AddsNobody before) (fruitless : visit.Fruitless before) :
    visit.Tells name before :=
  ⟨[], [], .nothing nobody fruitless, by rw [accounts, List.append_nil], by rw [files, List.append_nil]⟩

/-! ### A request on accounts -/

section OnAccounts

variable (untroubled : visit.env.Untroubled) (users : visit.env.outside.Reliable "users")
  (ready : before.Ready name)

theorem tells_of_enrols (asked : visit.request.wish = some .createUser ∨
      visit.request.wish = some .provisionUser)
    (enrols : Enrols visit.env visit.drawn name before (visit.next before))
    (files : (visit.next before).fileLog name = before.fileLog name) : visit.Tells name before := by
  rcases enrols with ⟨same, accounts⟩ | ⟨user, new, added, accounts⟩
  · refine .nothing accounts files (Frame.closed_of_same same) ?_
    rcases asked with asked | asked
    · exact .of_wish asked trivial
    · exact .of_wish asked trivial
  · exact ⟨_, _, .userAdded user asked new (congrArg _ added), accounts,
      by rw [files, List.append_nil]⟩

include untroubled users ready

theorem tells_deleteUser {written : String}
    (asked : visit.request.wish = some (.deleteUser written))
    (next : visit.next before = ((deleteUser visit.env visit.drawn written).runOn before).2)
    (files : (visit.next before).fileLog name = before.fileLog name) : visit.Tells name before := by
  rcases uuidPart_cases written before with ⟨id, read, reading⟩ | ⟨unread, refusal, reading⟩
  · rw [deleteUser, runOn_bind_ok reading] at next
    cases found : before.users.findById? id with
    | none =>
      have answer := @Accounts.userById_ok _ users before id
      rw [found] at answer
      have refused : (onAccounts (Accounts.delete visit.env id visit.drawn.correlation)).runOn
          before = (.error (.accounts (.notFound id)), before.noted (.findUserById id)) := by
        rw [onAccounts, runOn_mapFailure, Accounts.delete, runOn_bind_ok answer]
        rfl
      rw [runOn_bind_error refused] at next
      refine .nothing ?_ files (Frame.closed_of_same (by rw [next]; rfl))
        (.of_wish asked fun other same => ?_)
      · rw [next]
        exact (Frame.quietAccounts_noted fun _ => rfl).2 name
      · obtain rfl := Option.some.inj (read.symm.trans same)
        exact found
    | some user =>
      obtain ⟨shown, after, ran, gone, told⟩ := Accounts.delete_told untroubled users ready found
      have deleted : (onAccounts (Accounts.delete visit.env id visit.drawn.correlation)).runOn
          before = (.ok shown, after) := runOn_mapFailure_ok ran
      rw [runOn_bind_ok deleted] at next
      obtain rfl : user.id = id := by simpa using List.find?_some found
      refine ⟨_, _, .userDeleted written user asked read found ?_, ?_, by rw [files, List.append_nil]⟩
      · rw [next]
        exact gone
      · rw [next]
        exact told
  · rw [deleteUser, runOn_bind_error reading] at next
    refine .nothing (by rw [next]) files (Frame.closed_of_same (by rw [next]))
      (.of_wish asked fun other read => ?_)
    rw [unread] at read
    cases read

theorem tells_accountWish {wish : Wish} (asked : visit.request.wish = some wish)
    (onAccounts : wish.onAccounts = true) : visit.Tells name before := by
  have next := next_eq visit before
  rw [act_of_wish _ _ _ asked] at next
  have files : (visit.next before).fileLog name = before.fileLog name := by
    rw [next]
    exact (kept_accountWish Frame.quietFiles_files Frame.quietFiles_accountEvents
      Frame.quietFiles_accounts _ _ onAccounts before).2 name
  -- What is asked for on accounts may remove files in a cascade, but no file is told of.
  cases wish with
  | createUser =>
    refine tells_of_enrols (.inl asked) ?_ files
    rw [next]
    exact enrols_createUser untroubled ready visit.request
  | provisionUser =>
    refine tells_of_enrols (.inr asked) ?_ files
    rw [next]
    exact enrols_provisionUser untroubled ready visit.request
  | changeUser written =>
    have quiet : Act.Keeps .quietAccounts
        (changeUser visit.env visit.app written visit.request) :=
      .bind (Accounts.kept_looking Frame.quietAccounts_accounts (keeps_uuidPart _)) fun _ =>
        .bind (.ofExcept _) fun _ =>
          .bind (.mapFailure _ (Accounts.kept_change Frame.quietAccounts_accounts _)) fun _ => .pure _
    have closed : Act.Keeps .closed (changeUser visit.env visit.app written visit.request) :=
      .bind (Files.kept_looking (@Frame.closed_files fun _ => False) (keeps_uuidPart _)) fun _ =>
        .bind (.ofExcept _) fun _ =>
          .bind (.mapFailure _ (Accounts.closed_change _ _)) fun _ => .pure _
    refine .nothing ?_ files ?_ (.of_wish asked trivial)
    · rw [next]
      exact (quiet before).2 name
    · rw [AddsNobody, next]
      exact closed before
  | deleteUser written => exact tells_deleteUser untroubled users ready asked next files
  | upload entityType entityId field => cases onAccounts
  | clearSlot entityType entityId field => cases onAccounts
  | deleteFile id => cases onAccounts

end OnAccounts

/-! ### A request on files -/

section OnFiles

variable (untroubled : visit.env.Untroubled) (ready : before.Ready name)

theorem allows_fileWish {frame : Frame} (files : frame.AdmitsFiles fun _ => True)
    (events : frame.AdmitsFileEvents) {wish : Wish} (asked : visit.request.wish = some wish)
    (onFiles : wish.onAccounts = false) : frame.Allows before (visit.next before) := by
  rw [next_eq, act_of_wish _ _ _ asked]
  refine kept_fileWish files events onFiles (fun _ _ _ _ owner fields _ => ?_) before
  exact Files.kept_upload files _ _ fun _ => trivial

theorem accounts_fileWish {wish : Wish} (asked : visit.request.wish = some wish)
    (onFiles : wish.onAccounts = false) :
    (visit.next before).accountLog name = before.accountLog name ∧ visit.AddsNobody before := by
  have unheard := @allows_fileWish visit before _ Frame.quietAccounts_files
    Frame.quietAccounts_fileEvents _ asked onFiles
  exact ⟨unheard.2 name, allows_fileWish Frame.closed_files Frame.closed_fileEvents asked onFiles⟩

include untroubled ready

theorem tells_upload {entityType entityId field : String}
    (asked : visit.request.wish = some (.upload entityType entityId field)) :
    visit.Tells name before := by
  have next := next_eq visit before
  obtain ⟨accounts, nobody⟩ := @accounts_fileWish visit name before _ asked rfl
  have acts := act_of_wish visit.env visit.app visit.drawn asked
  have refused (rejected : ¬ visit.Succeeds before)
      (files : (visit.next before).fileLog name = before.fileLog name) : visit.Tells name before :=
    .nothing accounts files nobody (.of_wish asked rejected)
  rcases ownerParts_cases entityType entityId field before with
    ⟨owner, -, reading⟩ | ⟨-, refusal, reading⟩
  · have ran : (act visit.env visit.app visit.drawn visit.request).runOn before =
        (uploadFile visit.env visit.app visit.drawn owner
          (Target.ofText visit.request.target).query visit.request.body).runOn before := by
      rw [acts]
      exact runOn_bind_ok reading
    have takes := @takesIn_uploadFile visit.env visit.app visit.drawn name before untroubled ready
      owner (Target.ofText visit.request.target).query visit.request.body
    rw [← ran] at takes
    rcases takes with ⟨⟨refusal, failed⟩, files⟩ | ⟨⟨reply, done⟩, file, stored, files⟩
    · refine refused ?_ (by rw [next, files])
      rintro ⟨reply, done⟩
      rw [failed] at done
      cases done
    · refine ⟨_, _, .fileUploaded entityType entityId field file asked ⟨reply, done⟩ nobody ?_,
        by rw [accounts, List.append_nil], ?_⟩
      · rw [next, stored]
      · rw [next, files]
        rfl
  · have ran : (act visit.env visit.app visit.drawn visit.request).runOn before =
        (.error refusal, before) := by
      rw [acts]
      exact runOn_bind_error reading
    refine refused ?_ (by rw [next, ran])
    rintro ⟨reply, done⟩
    rw [ran] at done
    cases done

theorem tells_clearSlot {entityType entityId field : String}
    (asked : visit.request.wish = some (.clearSlot entityType entityId field)) :
    visit.Tells name before := by
  have next := next_eq visit before
  obtain ⟨accounts, nobody⟩ := @accounts_fileWish visit name before _ asked rfl
  rw [act_of_wish _ _ _ asked] at next
  have vacant (nowhere : ∀ owner, readOwner? entityType entityId field = some owner →
      before.files.current? owner = none)
      (files : (visit.next before).fileLog name = before.fileLog name) : visit.Tells name before :=
    .nothing accounts files nobody (.of_wish asked nowhere)
  rcases ownerParts_cases entityType entityId field before with
    ⟨owner, read, reading⟩ | ⟨unread, refusal, reading⟩
  · have ran : visit.next before =
        ((deleteOwnerFile visit.env visit.drawn owner).runOn before).2 := by
      rw [next]
      exact congrArg Prod.snd (runOn_bind_ok reading)
    have clears := @clears_deleteOwnerFile visit.env visit.drawn name before untroubled ready owner
    rw [← ran] at clears
    rcases clears with ⟨nowhere, files⟩ | ⟨file, found, gone, files⟩
    · refine vacant (fun other same => ?_) files
      obtain rfl := Option.some.inj (read.symm.trans same)
      exact nowhere
    · exact ⟨_, _, .fileDeleted entityType entityId field owner file asked read found nobody gone,
        by rw [accounts, List.append_nil], files⟩
  · have ran : visit.next before = before := by
      rw [next]
      exact congrArg Prod.snd (runOn_bind_error reading)
    refine vacant (fun other read => ?_) (by rw [ran])
    rw [unread] at read
    cases read

end OnFiles

/-- What a request gives rise to is told, whatever it asks for. -/
theorem tells (untroubled : visit.env.Untroubled) (users : visit.env.outside.Reliable "users")
    (ready : before.Ready name) : visit.Tells name before := by
  have next := next_eq visit before
  cases asked : visit.request.wish with
  | none =>
    have looks := keeps_act visit.env visit.app visit.drawn asked
    have unheard := Accounts.kept_looking Frame.quietAccounts_accounts looks before
    have silent := Files.kept_looking Frame.quietFiles_files looks before
    have closed := Files.kept_looking (@Frame.closed_files fun _ => False) looks before
    rw [← next] at unheard silent closed
    refine .nothing (unheard.2 name) (silent.2 name) closed fun wish same => ?_
    rw [asked] at same
    cases same
  | some wish =>
    cases wish with
    | upload entityType entityId field => exact tells_upload untroubled ready asked
    | clearSlot entityType entityId field => exact tells_clearSlot untroubled ready asked
    | deleteFile id =>
      obtain ⟨accounts, nobody⟩ := @accounts_fileWish visit name before _ asked rfl
      have silent : Act.Keeps .quietFiles (Service.deleteFile visit.env id) :=
        .bind (Files.kept_looking Frame.quietFiles_files (keeps_uuidPart _)) fun _ =>
          .bind (.mapFailure _ (Files.kept_remove Frame.quietFiles_files _)) fun _ => .pure _
      refine .nothing accounts ?_ nobody (.of_wish asked trivial)
      rw [next, act_of_wish _ _ _ asked]
      exact (silent before).2 name
    | createUser => exact tells_accountWish untroubled users ready asked rfl
    | provisionUser => exact tells_accountWish untroubled users ready asked rfl
    | changeUser written => exact tells_accountWish untroubled users ready asked rfl
    | deleteUser written => exact tells_accountWish untroubled users ready asked rfl

end Visit

/-! ## Runs of requests -/

theorem Visit.ready_next {state : State} (ready : state.Ready name) (visit : Visit) :
    (visit.next state).Ready name := by
  have kept := @retaining_act visit.env visit.app visit.drawn visit.request state
  rw [next_eq]
  exact {
    inMemory := kept.inMemory ready.inMemory
    detached := kept.detached ready.detached
    listens := ready.listens.of_retaining kept
    noAccount := idleAccounts_act visit.env visit.app visit.drawn visit.request state ready.noAccount
    noFile := idleFiles_act visit.env visit.app visit.drawn visit.request state ready.noFile }

/-- The state after requests, one after the other. -/
def visitAll (visits : List Visit) (start : State) : State :=
  visits.foldl (fun state visit => visit.next state) start

/-- The events that requests give rise to, one request after the other. -/
inductive Chronicle : List Visit → State → List Accounts.Event → List Files.Event → Prop
  | done (state : State) : Chronicle [] state [] []
  | visited {visit : Visit} {visits : List Visit} {state : State}
    {accounts moreAccounts : List Accounts.Event} {files moreFiles : List Files.Event}
    (news : visit.News state accounts files)
    (rest : Chronicle visits (visit.next state) moreAccounts moreFiles) :
    Chronicle (visit :: visits) state (accounts ++ moreAccounts) (files ++ moreFiles)

theorem idle_visitAll (visits : List Visit) {start : State}
    (accounts : start.accountEvents.pending = []) (files : start.fileEvents.pending = []) :
    (visitAll visits start).accountEvents.pending = [] ∧
      (visitAll visits start).fileEvents.pending = [] := by
  unfold visitAll
  induction visits generalizing start with
  | nil => exact ⟨accounts, files⟩
  | cons visit rest ih =>
    rw [List.foldl_cons]
    refine ih ?_ ?_
    · rw [Visit.next_eq]
      exact idleAccounts_act visit.env visit.app visit.drawn visit.request start accounts
    · rw [Visit.next_eq]
      exact idleFiles_act visit.env visit.app visit.drawn visit.request start files

theorem chronicle_visitAll {visits : List Visit} (untroubled : ∀ visit ∈ visits,
      visit.env.Untroubled ∧ visit.env.outside.Reliable "users")
    {start : State} (ready : start.Ready name) :
    ∃ accounts files, Chronicle visits start accounts files ∧
      (visitAll visits start).accountLog name = start.accountLog name ++ accounts ∧
      (visitAll visits start).fileLog name = start.fileLog name ++ files := by
  unfold visitAll
  induction visits generalizing start with
  | nil => exact ⟨[], [], .done start, by simp, by simp⟩
  | cons visit rest ih =>
    obtain ⟨reliable, users⟩ := untroubled visit (.head _)
    obtain ⟨accounts, files, news, told, toldFiles⟩ := visit.tells reliable users ready
    obtain ⟨moreAccounts, moreFiles, later, toldLater, toldFilesLater⟩ :=
      ih (fun other member => untroubled other (.tail _ member)) (visit.ready_next ready)
    refine ⟨_, _, .visited news later, ?_, ?_⟩
    · rw [List.foldl_cons, toldLater, told, List.append_assoc]
    · rw [List.foldl_cons, toldFilesLater, toldFiles, List.append_assoc]

theorem Visit.News.of_fruitless {visit : Visit} {before : State} {accounts : List Accounts.Event}
    {files : List Files.Event} (news : visit.News before accounts files)
    (nobody : visit.AddsNobody before) (fruitless : visit.Fruitless before) :
    accounts = [] ∧ files = [] := by
  cases news with
  | userAdded user asked new added =>
    obtain ⟨old, known, same⟩ := nobody user (by simp [added])
    exact absurd same (new old known)
  | userDeleted written user asked read found gone =>
    have missing := fruitless _ asked _ read
    rw [found] at missing
    cases missing
  | fileUploaded entityType entityId field file asked succeeds nobody stored =>
    exact absurd succeeds (fruitless _ asked)
  | fileDeleted entityType entityId field owner file asked read found nobody gone =>
    have missing := fruitless _ asked _ read
    rw [found] at missing
    cases missing
  | nothing => exact ⟨rfl, rfl⟩

theorem Visit.News.unique {visit : Visit} {before : State} {accounts others : List Accounts.Event}
    {files otherFiles : List Files.Event} (news : visit.News before accounts files)
    (again : visit.News before others otherFiles) : accounts = others ∧ files = otherFiles := by
  cases news with
  | nothing nobody fruitless =>
    obtain ⟨rfl, rfl⟩ := again.of_fruitless nobody fruitless
    exact ⟨rfl, rfl⟩
  | userAdded user asked new added =>
    cases again with
    | nothing nobody fruitless =>
      exact (News.userAdded user asked new added).of_fruitless nobody fruitless
    | userAdded other _ _ later =>
      -- Both are the last of the same records.
      obtain rfl : user = other := by simpa [added] using later
      exact ⟨rfl, rfl⟩
    | _ => simp_all
  | userDeleted written user asked read found gone =>
    cases again with
    | nothing nobody fruitless =>
      exact (News.userDeleted written user asked read found gone).of_fruitless nobody fruitless
    | _ => simp_all
  | fileUploaded entityType entityId field file asked succeeds nobody stored =>
    cases again with
    | nothing _ fruitless => exact absurd succeeds (fruitless _ asked)
    | _ => simp_all
  | fileDeleted entityType entityId field owner file asked read found nobody gone =>
    cases again with
    | nothing _ fruitless =>
      exact (News.fileDeleted _ _ _ _ file asked read found nobody gone).of_fruitless nobody fruitless
    | _ => simp_all

theorem Chronicle.unique {visits : List Visit} {state : State}
    {accounts others : List Accounts.Event} {files otherFiles : List Files.Event}
    (told : Chronicle visits state accounts files)
    (again : Chronicle visits state others otherFiles) : accounts = others ∧ files = otherFiles := by
  induction told generalizing others otherFiles with
  | done state =>
    cases again
    exact ⟨rfl, rfl⟩
  | visited news rest ih =>
    cases again with
    | visited sameNews later =>
      obtain ⟨rfl, rfl⟩ := news.unique sameNews
      obtain ⟨rfl, rfl⟩ := ih later
      exact ⟨rfl, rfl⟩

/-- A recorder of every topic listens, beside the remover of the files of deleted users. -/
def recorded : State where
  accountEvents := ⟨[(.userCreated, .recorder "log"), (.userDeleted, .recorder "log"),
    (.userDeleted, .fileRemover {})], []⟩
  fileEvents := ⟨[(.fileUploaded, .recorder "log"), (.fileDeleted, .recorder "log")], []⟩

def App.small : App := { maxBodyBytes := 100, wording := fun _ _ => "" }

/-- A user is added, the note of a page is uploaded and deleted, and the user is deleted. -/
def errands : List Visit :=
  let body := "\x7b\"username\":\"keeper\",\"email\":\"keeper@example.org\"\x7d".toUTF8
  let user := "/api/v1/users/00000000-0000-0000-0000-000000000001"
  let note := "/api/v1/files/page/1/note"
  let requests : List Request := [
    ⟨"POST", "/api/v1/users", some "application/json", body⟩,
    ⟨"POST", note ++ "?filename=a.txt", none, "text".toUTF8⟩,
    ⟨"DELETE", note, none, ByteArray.empty⟩,
    ⟨"DELETE", user, none, ByteArray.empty⟩]
  requests.mapIdx fun index request =>
    ⟨⟨⟨index, 0⟩, ⟨"", ""⟩, .plain⟩, .small, ⟨.ofNat (index + 1), .nil, []⟩, request⟩

/-- Nothing waits after any requests, whatever the handlers do; and if none refuses, a recorder of
every topic is told of just what the requests give rise to. -/
theorem visits_told {start : State} (accounts : start.accountEvents.pending = [])
    (files : start.fileEvents.pending = []) (visits : List Visit) :
    ((visitAll visits start).accountEvents.pending = [] ∧
        (visitAll visits start).fileEvents.pending = []) ∧
      (start.InMemory → start.Detached →
        (∀ visit ∈ visits, visit.env.Untroubled ∧ visit.env.outside.Reliable "users") →
        ∀ name, start.Listens name →
          ∃ told toldOfFiles, Chronicle visits start told toldOfFiles ∧
            (visitAll visits start).accountLog name = start.accountLog name ++ told ∧
            (visitAll visits start).fileLog name = start.fileLog name ++ toldOfFiles) := by
  refine ⟨idle_visitAll visits accounts files, ?_⟩
  intro inMemory detached untroubled name listens
  exact chronicle_visitAll untroubled ⟨inMemory, detached, listens, accounts, files⟩

theorem visits_told_errands :
    ((visitAll errands recorded).accountLog "log").map (·.topic) = [.userCreated, .userDeleted] ∧
      ((visitAll errands recorded).fileLog "log").map (·.topic) = [.fileUploaded, .fileDeleted] ∧
      Chronicle errands recorded ((visitAll errands recorded).accountLog "log")
        ((visitAll errands recorded).fileLog "log") := by
  rw [← and_assoc]
  refine ⟨by decide +kernel, ?_⟩
  have plain : Env.Untroubled ⟨⟨0, 0⟩, ⟨"", ""⟩, .plain⟩ :=
    ⟨Outside.plain_reliable "files", Outside.plain_reliable "storage", fun _ _ _ => rfl⟩
  have untroubled : ∀ visit ∈ errands,
      visit.env.Untroubled ∧ visit.env.outside.Reliable "users" := by
    intro visit member
    obtain ⟨index, _, rfl⟩ := List.mem_mapIdx.1 member
    exact ⟨⟨plain.files, plain.storage, plain.heard⟩, Outside.plain_reliable "users"⟩
  have listens : recorded.Listens "log" := {
    accounts := by rintro (_ | _) <;> decide
    files := by rintro (_ | _) <;> decide
    accountsTaken := by simp [recorded]
    filesTaken := by simp [recorded] }
  have detached : recorded.Detached := ⟨by simp [recorded], by simp [recorded]⟩
  obtain ⟨told, toldOfFiles, chronicle, accounts, files⟩ :=
    (visits_told rfl rfl errands).2 ⟨_, rfl⟩ detached untroubled "log" listens
  rw [accounts, files]
  exact chronicle

end Service

end Depot
