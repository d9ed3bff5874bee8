import Depot.Proofs.Accounts.Moves
import Depot.Service.App

/-!
# What a request asks for

Most requests only look.  The others ask for one of seven things, which are told here by
the place and the method; so what a request can do is settled by looking at these.
-/

set_option autoImplicit false

namespace Depot.Service

open Act

/-- What a request can ask for that changes something, with the parts of its path. -/
inductive Wish
  | createUser
  | provisionUser
  | changeUser (id : String)
  | deleteUser (id : String)
  | upload (entityType entityId field : String)
  | clearSlot (entityType entityId field : String)
  | deleteFile (id : String)
deriving DecidableEq, Repr

/-- Whether it is about accounts; otherwise it is about files. -/
def Wish.onAccounts : Wish → Bool
  | createUser | provisionUser | changeUser _ | deleteUser _ => true
  | upload .. | clearSlot .. | deleteFile _ => false

/-- What a method asks for at a place. -/
def Resource.wish (resource : Resource) (method : String) : Option Wish :=
  match resource, method with
  | .users, "POST" => some .createUser
  | .provision, "POST" => some .provisionUser
  | .user id, "PATCH" => some (.changeUser id)
  | .user id, "DELETE" => some (.deleteUser id)
  | .slot entityType entityId field, "POST" => some (.upload entityType entityId field)
  | .slot entityType entityId field, "DELETE" => some (.clearSlot entityType entityId field)
  | .file id, "DELETE" => some (.deleteFile id)
  | _, _ => none

/-- What a request asks for, if it does not only look. -/
def Request.wish (request : Request) : Option Wish :=
  (Resource.ofPath (Target.ofText request.target).path).bind (·.wish request.method)

variable (env : Env) (app : App) (drawn : Drawn)

/-- The action that is asked for. -/
def Wish.act (query : Query) (request : Request) : Wish → Act Refusal Reply
  | createUser => Service.createUser env app drawn request
  | provisionUser => Service.provisionUser env app drawn request
  | changeUser id => Service.changeUser env app id request
  | deleteUser id => Service.deleteUser env drawn id
  | upload entityType entityId field => do
    uploadFile env app drawn (← ownerParts entityType entityId field) query request.body
  | clearSlot entityType entityId field => do
    deleteOwnerFile env drawn (← ownerParts entityType entityId field)
  | deleteFile id => Service.deleteFile env id

theorem answer_state (request : Request) (state : State) :
    (answer env app drawn request state).2 = ((act env app drawn request).runOn state).2 := by
  unfold answer
  cases (act env app drawn request).runOn state
  rfl

/-! ## Reading -/

theorem keeps_need {α : Type} (what : Unreadable) (given : Option α) :
    (need what given).Keeps .looking := by
  cases given with
  | none => exact .throw _
  | some value => exact .pure _

theorem keeps_part (written : String) : (part written).Keeps .looking := keeps_need _ _

theorem keeps_uuidPart (written : String) : (uuidPart written).Keeps .looking :=
  .bind (keeps_part _) fun _ => keeps_need _ _

theorem keeps_ownerParts (entityType entityId field : String) :
    (ownerParts entityType entityId field).Keeps .looking :=
  .bind (keeps_part _) fun _ => .bind (keeps_part _) fun _ => .bind (keeps_part _) fun _ => .pure _

theorem keeps_queryPart {α : Type} (query : Query) (read : Query → Option α) :
    (queryPart query read).Keeps .looking := keeps_need _ _

theorem keeps_linkFile (locator : Files.Locator) (query : Query) :
    (linkFile env locator query).Keeps .looking := by
  refine .bind (keeps_queryPart _ _) fun minutes => .bind (.mapFailure _ ?_) fun _ => .pure _
  refine .bind (Files.keeps_locate env locator) fun file => ?_
  cases minutes with
  | none => exact .bind (.pure _) fun _ => .pure _
  | some minutes => exact .bind (.mapFailure _ (Files.keeps_signedUrl env _ _)) fun _ => .pure _

theorem keeps_checkSignature (path : String) (given : Signature) :
    (checkSignature env path given).Keeps .looking := by
  unfold checkSignature
  split
  · exact .pure _
  · split
    · exact .pure _
    · exact .throw _
  · exact .throw _

theorem keeps_serveBlob (path : String) (query : Query) :
    (serveBlob env path query).Keeps .looking := by
  refine .bind (keeps_part _) fun path => .bind (keeps_queryPart _ _) fun signature =>
    .bind .getThe fun state => ?_
  cases state.blobs with
  | memory blobs => exact .throw _
  | disk tree =>
    refine .bind (keeps_checkSignature env _ _) fun _ => .bind (.ofExcept _) fun bytes =>
      .bind (.mapFailure _ (Files.keeps_fileByPath env _)) fun record => ?_
    dsimp only
    split
    · exact .pure _
    · exact .pure _

/-! ## Wishes -/

theorem perform_of_wish {resource : Resource} {query : Query} {request : Request} {wish : Wish}
    (asks : resource.wish request.method = some wish) :
    perform env app drawn resource query request = wish.act env app drawn query request := by
  unfold Resource.wish at asks
  unfold perform
  split at asks
  all_goals cases asks
  all_goals
    rename_i method
    rw [method, if_neg (by decide)]
    rfl

theorem method_eq {asked method : String}
    (named : (if asked = "HEAD" then "GET" else asked) = method) (other : method ≠ "GET") :
    asked = method := by
  split_ifs at named
  · exact absurd named.symm other
  · exact named

theorem keeps_perform {resource : Resource} (query : Query) {request : Request}
    (nothing : resource.wish request.method = none) :
    (perform env app drawn resource query request).Keeps .looking := by
  unfold perform
  generalize named : (if request.method = "HEAD" then "GET" else request.method) = method
  have asked := method_eq named
  split
  -- the places where something is asked for
  all_goals try
    rw [asked (by decide)] at nothing
    cases nothing
  · exact .pure _
  · exact .bind (keeps_queryPart _ _) fun _ =>
      .bind (.mapFailure _ (Accounts.keeps_usersOnPage env _ _)) fun _ => .pure _
  · exact .bind (keeps_uuidPart _) fun _ =>
      .bind (.mapFailure _ (Accounts.keeps_lookUp env _)) fun _ => .pure _
  · exact .bind (keeps_ownerParts _ _ _) fun _ => keeps_linkFile env _ _
  · exact .bind (keeps_uuidPart _) fun _ =>
      .bind (.mapFailure _ (Files.keeps_locate env _)) fun _ => .pure _
  · exact .bind (keeps_uuidPart _) fun _ => keeps_linkFile env _ _
  · exact keeps_serveBlob env _ _
  · exact .throw _

theorem keeps_act {request : Request} (nothing : request.wish = none) :
    (act env app drawn request).Keeps .looking := by
  unfold Request.wish at nothing
  unfold act
  dsimp only
  cases found : Resource.ofPath (Target.ofText request.target).path with
  | none => exact .throw _
  | some resource =>
    rw [found] at nothing
    exact keeps_perform env app drawn _ nothing

theorem act_of_wish {request : Request} {wish : Wish} (asks : request.wish = some wish) :
    act env app drawn request =
      wish.act env app drawn (Target.ofText request.target).query request := by
  unfold Request.wish at asks
  unfold act
  dsimp only
  cases found : Resource.ofPath (Target.ofText request.target).path with
  | none =>
    rw [found] at asks
    cases asks
  | some resource =>
    rw [found] at asks
    exact perform_of_wish env app drawn asks

end Depot.Service
