import Depot.Proofs.Passwords.Accounts
import Depot.Proofs.Service.News

/-!
# Requests look alike

Requests that differ only in the contents of passwords are answered with the same reply, and lead
from states that look alike to states that look alike.
-/

set_option autoImplicit false

namespace Depot.Service

open Act

variable {first second : Env} {app : App} {drawn : Drawn}

/-! ## Reading -/

theorem alike_need {α : Type} (what : Unreadable) (given : Option α) :
    Alike (· = ·) (need what given) (need what given) := by
  cases given with
  | none => exact .throw _
  | some value => exact .pure rfl

theorem alike_uuidPart (written : String) :
    Alike (· = ·) (uuidPart written) (uuidPart written) :=
  .andThen (alike_need _ _) fun _ => alike_need _ _

theorem alike_readUuid (written : String) :
    Alike (fun id other => id = other ∧ readUuid? written = some id) (uuidPart written)
      (uuidPart written) := by
  intro one other states
  have ends := alike_uuidPart written one other states
  rcases uuidPart_cases written one with ⟨id, read, reading⟩ | ⟨-, refusal, reading⟩
  all_goals
    rw [reading] at ends ⊢
    generalize (uuidPart written).runOn other = ended at ends ⊢
    obtain ⟨result, after⟩ := ended
    obtain ⟨results, afters⟩ := ends
    cases results
  · rename_i same
    exact ⟨.ok ⟨same, read⟩, afters⟩
  · exact ⟨.error refusal, afters⟩

theorem alike_ownerParts (entityType entityId field : String) :
    Alike (· = ·) (ownerParts entityType entityId field) (ownerParts entityType entityId field) :=
  .andThen (alike_need _ _) fun _ => .andThen (alike_need _ _) fun _ =>
    .andThen (alike_need _ _) fun _ => .pure rfl

section Places

variable (alike : first.Alike second)

include alike

/-! ## Looking -/

theorem alike_viewFile (file : Files.File) : viewFile first file = viewFile second file := by
  rw [viewFile, viewFile, alike.book]

theorem alike_listUsers (query : Query) :
    Alike (· = ·) (listUsers first query) (listUsers second query) := by
  refine .andThen (alike_need _ _) fun page =>
    .bind (.mapFailure _ (Accounts.alike_list alike _ _)) fun users others same => .pure ?_
  -- What is shown of a user is shown behind the veil.
  have shown (users : List Accounts.User) :
      users.map Accounts.User.view = (users.map Accounts.User.veiled).map Accounts.User.view := by
    rw [List.map_map]
    rfl
  rw [shown users, shown others, same]

theorem alike_getUser (id : String) : Alike (· = ·) (getUser first id) (getUser second id) :=
  .andThen (alike_uuidPart id) fun _ =>
    .bind (.mapFailure _ (Accounts.alike_lookUp alike _)) fun _ _ same =>
      .pure (congrArg (Reply.json 200) same.view)

theorem alike_getFile (id : String) : Alike (· = ·) (getFile first id) (getFile second id) :=
  .andThen (alike_uuidPart id) fun _ =>
    .andThen (.mapFailure _ (Files.alike_locate alike _)) fun file =>
      .pure (congrArg (Reply.json 200) (alike_viewFile alike file))

theorem alike_linkFile (locator : Files.Locator) (query : Query) :
    Alike (· = ·) (linkFile first locator query) (linkFile second locator query) :=
  .andThen (alike_need _ _) fun minutes =>
    .andThen (.mapFailure _ (Files.alike_link alike locator minutes)) fun _ => .pure rfl

theorem alike_checkSignature (path : String) (given : Signature) :
    Alike (· = ·) (checkSignature first path given) (checkSignature second path given) := by
  unfold checkSignature
  rw [alike.now, alike.book]
  split
  · exact .pure rfl
  · split
    · exact .pure rfl
    · exact .throw _
  · exact .throw _

theorem alike_serveBlob (path : String) (query : Query) :
    Alike (· = ·) (serveBlob first path query) (serveBlob second path query) := by
  refine .andThen (alike_need _ _) fun path => .andThen (alike_need _ _) fun signature =>
    .bind .getThe fun one other states => ?_
  rw [states.blobs]
  cases other.blobs with
  | memory blobs => exact .throw _
  | disk tree =>
    refine .andThen (alike_checkSignature alike _ _) fun _ => .andThen (.ofExcept (.refl _))
      fun bytes => .andThen (.mapFailure _ (Files.alike_fileByPath alike _)) fun record => ?_
    dsimp only
    split
    · exact .pure rfl
    · exact .pure rfl

/-! ## What is asked for -/

theorem alike_announceUser {user other : Accounts.User} (same : user.Alike other)
    (events : List Accounts.Event) :
    Alike (· = ·) (announceUser first user events) (announceUser second other events) := by
  unfold announceUser
  rw [same.id]
  exact .andThen (Accounts.alike_enqueue events) fun _ =>
    .mapFailure _ (Accounts.alike_dispatch alike _)

theorem alike_announceFile (file : Files.File) (events : List Files.Event) :
    Alike (· = ·) (announceFile first file events) (announceFile second file events) :=
  .andThen (Files.alike_enqueue events) fun _ => .mapFailure _ (Files.alike_dispatch alike _)

theorem alike_createUser {request other : Request}
    (read : ResultsAlike (fun body body' => body.veiled = body'.veiled)
      (readBody app.maxBodyBytes registrationReader request)
      (readBody app.maxBodyBytes registrationReader other)) :
    Alike (· = ·) (createUser first app drawn request) (createUser second app drawn other) := by
  refine .bind (.ofExcept read) fun body body' same => ?_
  have sameRequest : Accounts.Registration.veiled { body with correlation := drawn.correlation } =
      Accounts.Registration.veiled { body' with correlation := drawn.correlation } :=
    congrArg (fun request => { request with correlation := drawn.correlation }) same
  refine .bind (.mapFailure _ (Accounts.alike_register alike sameRequest drawn.id)) ?_
  rintro ⟨user, events⟩ ⟨user', events'⟩ ⟨users, rfl⟩
  exact .andThen (alike_announceUser alike users events) fun _ =>
    .pure (congrArg (Reply.json 201) users.view)

theorem alike_provisionUser (request : Request) :
    Alike (· = ·) (provisionUser first app drawn request)
      (provisionUser second app drawn request) := by
  refine .andThen (.ofExcept (.refl _)) fun body => ?_
  refine .bind (.mapFailure _ (Accounts.alike_provision alike _ drawn.id drawn.ending)) ?_
  rintro ⟨user, events⟩ ⟨user', events'⟩ ⟨users, rfl⟩
  exact .andThen (alike_announceUser alike users events) fun _ =>
    .pure (congrArg (Reply.json _) users.view)

theorem alike_changeUser (id : String) {request other : Request}
    (read : ∀ user, readUuid? id = some user →
      ResultsAlike (fun body body' => body.veiled = body'.veiled)
        (readBody app.maxBodyBytes (changeReader user) request)
        (readBody app.maxBodyBytes (changeReader user) other)) :
    Alike (· = ·) (changeUser first app id request) (changeUser second app id other) := by
  refine .bind (alike_readUuid id) ?_
  rintro user _ ⟨rfl, written⟩
  refine .bind (.ofExcept (read user written)) fun _ _ same => ?_
  exact .bind (.mapFailure _ (Accounts.alike_change alike same)) fun _ _ users =>
    .pure (congrArg (Reply.json 200) users.view)

theorem alike_uploadFile (owner : Files.Owner) (query : Query) (bytes : ByteArray) :
    Alike (· = ·) (uploadFile first app drawn owner query bytes)
      (uploadFile second app drawn owner query bytes) := by
  refine .andThen (alike_need _ _) fun fields => ?_
  have uploading : Alike (· = ·)
      (do
        let stored ← onFiles (Files.upload first app.settings.replaceStrategy
          (uploadRequest app drawn owner fields bytes) drawn.id)
        announceFile first stored.1 stored.2
        return Reply.json 201 (viewFile first stored.1))
      (do
        let stored ← onFiles (Files.upload second app.settings.replaceStrategy
          (uploadRequest app drawn owner fields bytes) drawn.id)
        announceFile second stored.1 stored.2
        return Reply.json 201 (viewFile second stored.1)) :=
    .andThen (.mapFailure _ (Files.alike_upload alike _ _ _)) fun stored =>
      .andThen (alike_announceFile alike _ _) fun _ =>
        .pure (congrArg (Reply.json 201) (alike_viewFile alike stored.1))
  split
  · exact .andThen (.throw _) fun _ => uploading
  · exact uploading

theorem alike_wish (query : Query) (request : Request) (wish : Wish) :
    Alike (· = ·) (wish.act first app drawn query request)
      (wish.act second app drawn query request) := by
  cases wish with
  | createUser => exact alike_createUser alike (.of_map rfl)
  | provisionUser => exact alike_provisionUser alike request
  | changeUser id => exact alike_changeUser alike id fun _ _ => .of_map rfl
  | deleteUser id =>
    exact .andThen (alike_uuidPart id) fun _ =>
      .bind (.mapFailure _ (Accounts.alike_delete alike _ _)) fun _ _ _ => .pure rfl
  | upload entityType entityId field =>
    exact .andThen (alike_ownerParts _ _ _) fun _ => alike_uploadFile alike _ _ _
  | clearSlot entityType entityId field =>
    exact .andThen (alike_ownerParts _ _ _) fun _ =>
      .andThen (.mapFailure _ (Files.alike_removeOfOwner alike _ _)) fun _ => .pure rfl
  | deleteFile id =>
    exact .andThen (alike_uuidPart id) fun _ =>
      .andThen (.mapFailure _ (Files.alike_remove alike _)) fun _ => .pure rfl

theorem alike_perform {resource : Resource} (query : Query) {request : Request}
    (nothing : resource.wish request.method = none) :
    Alike (· = ·) (perform first app drawn resource query request)
      (perform second app drawn resource query request) := by
  unfold perform
  generalize named : (if request.method = "HEAD" then "GET" else request.method) = method
  have asked := method_eq named
  split
  -- the places where something is asked for
  all_goals try
    rw [asked (by decide)] at nothing
    cases nothing
  · exact .pure rfl
  · exact alike_listUsers alike query
  · exact alike_getUser alike _
  · exact .andThen (alike_ownerParts _ _ _) fun _ => alike_linkFile alike _ _
  · exact alike_getFile alike _
  · exact .andThen (alike_uuidPart _) fun _ => alike_linkFile alike _ _
  · exact alike_serveBlob alike _ _
  · exact .throw _

theorem alike_act (request : Request) :
    Alike (· = ·) (act first app drawn request) (act second app drawn request) := by
  cases asked : request.wish with
  | some wish =>
    rw [act_of_wish first app drawn asked, act_of_wish second app drawn asked]
    exact alike_wish alike _ request wish
  | none =>
    unfold Request.wish at asked
    unfold act
    dsimp only
    cases found : Resource.ofPath (Target.ofText request.target).path with
    | none => exact .throw _
    | some resource =>
      rw [found] at asked
      exact alike_perform alike _ asked

end Places

/-! ## Requests -/

/-- Two requests that are the same, or that give bodies which are read as the same but for what
passwords hold, or are refused alike. -/
inductive Request.Alike (app : App) : Request → Request → Prop
  | refl (request : Request) : Alike app request request
  | createUser {request : Request} {body : ByteArray} (asked : request.wish = some .createUser)
    (readings : ResultsAlike (fun one other => one.veiled = other.veiled)
      (readBody app.maxBodyBytes registrationReader request)
      (readBody app.maxBodyBytes registrationReader { request with body })) :
    Alike app request { request with body }
  | changeUser {id : String} {request : Request} {body : ByteArray}
    (asked : request.wish = some (.changeUser id))
    (readings : ∀ user, readUuid? id = some user →
      ResultsAlike (fun one other => one.veiled = other.veiled)
        (readBody app.maxBodyBytes (changeReader user) request)
        (readBody app.maxBodyBytes (changeReader user) { request with body })) :
    Alike app request { request with body }

theorem Request.Alike.method {one other : Request} (requests : one.Alike app other) :
    one.method = other.method := by
  cases requests <;> rfl

theorem Request.Alike.act (alike : first.Alike second) {one other : Request}
    (requests : one.Alike app other) :
    Act.Alike (· = ·) (act first app drawn one) (Service.act second app drawn other) := by
  cases requests with
  | refl request => exact alike_act alike one
  | @createUser _ body asked readings =>
    have again : Request.wish { one with body } = some .createUser := asked
    rw [act_of_wish first app drawn asked, act_of_wish second app drawn again]
    exact alike_createUser alike readings
  | @changeUser id _ body asked readings =>
    have again : Request.wish { one with body } = some (.changeUser id) := asked
    rw [act_of_wish first app drawn asked, act_of_wish second app drawn again]
    exact alike_changeUser alike id readings

/-- Requests that look alike, in surroundings that are the same but for what the hasher makes of
passwords. -/
structure Visit.Alike (first second : Visit) : Prop where
  app : first.app = second.app
  drawn : first.drawn = second.drawn
  env : first.env.Alike second.env
  request : first.request.Alike second.app second.request

def Visit.reply (visit : Visit) (state : State) : Reply :=
  (answer visit.env visit.app visit.drawn visit.request state).1

/-- The reply of the framework when it cannot read the request, in the words that it has for it. -/
def Visit.unread (visit : Visit) (what : Unreadable) : Reply :=
  (Refusal.unreadable what).reply (visit.app.wording visit.request)

structure Exchange where
  visit : Visit
  reply : Reply

/-- Two requests have the same reply, or neither of them can be read for the same reason. Only the
words for that reason may go with the request. -/
inductive Exchange.Alike : Exchange → Exchange → Prop
  | same (first second : Visit) (reply : Reply) : Alike ⟨first, reply⟩ ⟨second, reply⟩
  | unread (first second : Visit) (what : Unreadable) :
    Alike ⟨first, first.unread what⟩ ⟨second, second.unread what⟩

/-- The framework has the same words for two requests, whatever it cannot read of them. -/
def Visit.WordedAlike (first second : Visit) : Prop :=
  ∀ what, first.app.wording first.request what = second.app.wording second.request what

theorem Exchange.Alike.reply_eq {one other : Exchange} (alike : one.Alike other)
    (words : one.visit.WordedAlike other.visit) : one.reply = other.reply := by
  cases alike with
  | same first second reply => rfl
  | unread first second what => exact congrArg (Reply.plain what.status) (words what)

theorem Visit.Alike.answer {first second : Visit} (visits : first.Alike second)
    {one other : State} (states : one.Alike other) :
    Exchange.Alike ⟨first, first.reply one⟩ ⟨second, second.reply other⟩ ∧
      (first.next one).Alike (second.next other) := by
  have ends : EndsAlike (· = ·) ((act first.env first.app first.drawn first.request).runOn one)
      ((act second.env second.app second.drawn second.request).runOn other) := by
    rw [visits.app, visits.drawn]
    exact visits.request.act visits.env one other states
  have method := visits.request.method
  unfold Visit.reply Visit.next Service.answer
  dsimp only
  generalize (act first.env first.app first.drawn first.request).runOn one = ended at ends ⊢
  generalize (act second.env second.app second.drawn second.request).runOn other = ended' at ends ⊢
  obtain ⟨result, after⟩ := ended
  obtain ⟨result', after'⟩ := ended'
  obtain ⟨results, afters⟩ := ends
  obtain rfl : result = result' := results.eq
  refine ⟨?_, afters⟩
  rw [method]
  cases result with
  | ok reply => exact .same first second _
  | error refusal =>
    cases refusal with
    | unreadable what =>
      dsimp only
      split
      -- nothing is left of the words where only the head is asked for
      · exact .same first second _
      · exact .unread first second what
    | _ => exact .same first second _

/-! ## Runs of requests -/

/-- Requests and what they are answered with, one after the other. -/
def exchanges : List Visit → State → List Exchange
  | [], _ => []
  | visit :: rest, state => ⟨visit, visit.reply state⟩ :: exchanges rest (visit.next state)

def replies (visits : List Visit) (state : State) : List Reply :=
  (exchanges visits state).map Exchange.reply

theorem alike_visitAll {firsts seconds : List Visit}
    (visits : List.Forall₂ Visit.Alike firsts seconds) {one other : State}
    (states : one.Alike other) :
    List.Forall₂ Exchange.Alike (exchanges firsts one) (exchanges seconds other) ∧
      (visitAll firsts one).Alike (visitAll seconds other) := by
  unfold visitAll
  induction visits generalizing one other with
  | nil => exact ⟨.nil, states⟩
  | cons visit rest ih =>
    obtain ⟨reply, next⟩ := visit.answer states
    obtain ⟨later, ends⟩ := ih next
    rw [List.foldl_cons, List.foldl_cons]
    exact ⟨.cons reply later, ends⟩

theorem replies_eq {firsts seconds : List Visit}
    (words : List.Forall₂ Visit.WordedAlike firsts seconds) {one other : State}
    (alike : List.Forall₂ Exchange.Alike (exchanges firsts one) (exchanges seconds other)) :
    replies firsts one = replies seconds other := by
  induction words generalizing one other with
  | nil => rfl
  | cons same rest ih =>
    obtain ⟨reply, later⟩ := List.forall₂_cons.1 alike
    exact congrArg₂ List.cons (reply.reply_eq same) (ih later)

end Depot.Service
