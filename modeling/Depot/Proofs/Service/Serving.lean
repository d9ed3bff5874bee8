import Depot.Proofs.Blobs.Signing
import Depot.Proofs.Service.Wishes

/-!
# Serving contents

What a request for a content is answered with where contents are on disk.  A signature that a
request carries is looked at before the content is; one that is not in order, or only half of
one, is refused whatever is stored, and nothing else is refused for it.
-/

set_option autoImplicit false

namespace Depot.Service

open Act

/-- A request that reads the content at a written path. -/
def Request.AsksFor (request : Request) (written : String) : Prop :=
  (request.method = "GET" ∨ request.method = "HEAD") ∧
    Resource.ofPath (Target.ofText request.target).path = some (.blob written)

/-- What a request gives is in order: no signature at all, or one that verifies. -/
inductive Signature.InOrder (env : Env) (path : String) : Signature → Prop
  | absent : InOrder env path ⟨none, none⟩
  | verified (expires : Int) (signature : String)
      (valid : env.book.verifies env.now path expires signature = true) :
      InOrder env path ⟨some expires, some signature⟩

def forbidden : Refusal := .forbidden "invalid or expired signature"

variable {env : Env} {app : App} {drawn : Drawn} {request : Request} {written path : String}
  {query : Query} {given : Signature} {state : State} {tree : Blobs.Disk}

/-! ## The signature -/

theorem checkSignature_inOrder (inOrder : given.InOrder env path) :
    checkSignature env path given = pure () := by
  cases inOrder with
  | absent => rfl
  | verified expires signature valid => simp [checkSignature, valid]

theorem checkSignature_forbidden (disorder : ¬ given.InOrder env path) :
    checkSignature env path given = throw forbidden := by
  obtain ⟨expires, signature⟩ := given
  cases expires with
  | none =>
    cases signature with
    | none => exact absurd .absent disorder
    | some signature => rfl
  | some expires =>
    cases signature with
    | none => rfl
    | some signature =>
      have invalid : env.book.verifies env.now path expires signature ≠ true :=
        fun valid => disorder (.verified expires signature valid)
      simp [checkSignature, invalid, forbidden]

/-! ## The rest -/

/-- What is done once the signature is in order. -/
def serveFrom (env : Env) (tree : Blobs.Disk) (path : String) : Act Refusal Reply := do
  let bytes ← onFiles (Act.ofExcept (blobBytes tree path))
  let record ← onAccounts (Files.fileByPath env path)
  let mediaType := (record.map (·.metadata.mimeType)).getD fallbackMediaType
  if isHeaderText mediaType then return ⟨200, some mediaType, .bytes bytes⟩
  else return .plain 500 "failed to parse header value"

theorem runOn_serveBlob (disk : state.blobs = .disk tree) (decoded : decodePart? written = some path)
    (fields : Signature.ofQuery? query = some given) :
    (serveBlob env written query).runOn state =
      (checkSignature env path given >>= fun _ => serveFrom env tree path).runOn state := by
  simp only [serveBlob, part, queryPart, decoded, fields, need, pure_bind]
  rw [runOn_bind_ok (runOn_getThe state)]
  simp only [disk]
  rfl

theorem perform_blob (method : request.method = "GET" ∨ request.method = "HEAD") :
    perform env app drawn (.blob written) query request = serveBlob env written query := by
  have asks : (if request.method = "HEAD" then "GET" else request.method) = "GET" := by
    rcases method with get | head
    · rw [get, if_neg (by decide)]
    · rw [if_pos head]
  unfold perform
  rw [asks]
  rfl

theorem act_asksFor (asks : request.AsksFor written) :
    act env app drawn request = serveBlob env written (Target.ofText request.target).query := by
  obtain ⟨method, place⟩ := asks
  unfold act
  simp only [place]
  exact perform_blob method

/-! ## Who is refused -/

theorem failureStatus_ne (failure : Failure) : (failureStatus failure).1 ≠ 403 := by
  cases failure <;> simp [failureStatus]

theorem fileFailureStatus_ne (failure : Files.FileFailure) :
    (fileFailureStatus failure).1 ≠ 403 := by
  cases failure with
  | records failure => exact failureStatus_ne failure
  | _ => simp [fileFailureStatus]

/-- What a request is answered with, by how it went. -/
def replyOf (words : Unreadable → String) : Except Refusal Reply → Reply
  | .ok reply => reply
  | .error refusal => refusal.reply words

theorem status_answer :
    (answer env app drawn request state).1.status =
      (replyOf (app.wording request) ((act env app drawn request).runOn state).1).status := by
  unfold answer
  cases (act env app drawn request).runOn state with
  | mk result after => cases result <;> dsimp only <;> split_ifs <;> rfl

/-- A run that is not answered as forbidden. -/
def Admitted (words : Unreadable → String) (ended : Except Refusal Reply × State) : Prop :=
  (replyOf words ended.1).status ≠ 403

theorem admitted_serveFrom (words : Unreadable → String) :
    Admitted words ((serveFrom env tree path).runOn state) := by
  unfold serveFrom
  apply bind_cases
  · intro failure middle ran
    obtain ⟨cause, -, rfl⟩ := of_mapFailure_error ran
    exact fileFailureStatus_ne cause
  · intro bytes middle _
    apply bind_cases
    · intro failure after ran
      obtain ⟨cause, -, rfl⟩ := of_mapFailure_error ran
      exact failureStatus_ne cause
    · intro record after _
      dsimp only
      split_ifs
      · simp [Admitted, replyOf]
      · simp [Admitted, replyOf, Reply.plain]

/-- Where contents are on disk, those and only those requests are refused as forbidden whose
signature is not in order. -/
theorem status_forbidden_iff (disk : state.blobs = .disk tree) (asks : request.AsksFor written)
    (decoded : decodePart? written = some path)
    (fields : Signature.ofQuery? (Target.ofText request.target).query = some given) :
    (answer env app drawn request state).1.status = 403 ↔ ¬ given.InOrder env path := by
  rw [status_answer, act_asksFor asks, runOn_serveBlob disk decoded fields]
  -- the signature is looked at before anything that is stored
  by_cases inOrder : given.InOrder env path
  · rw [checkSignature_inOrder inOrder, pure_bind]
    exact iff_of_false (admitted_serveFrom _) (not_not_intro inOrder)
  · rw [checkSignature_forbidden inOrder, runOn_bind_error (runOn_throw forbidden state)]
    simp [inOrder, replyOf, forbidden, Refusal.reply, Reply.failed, Reply.json]

/-! ## What a signed address grants -/

/-- **Signed addresses.**  The address issued for an accepted path carries a second and a
signature.  What is digested tells path and second apart; so where the digest does not collide,
the signature verifies for this path and this second until that second has passed, and for
nothing else.  No other signature verifies for them.  And whatever is stored on disk, a request
for a content is refused as forbidden where it carries half a signature or one that does not
verify, and only there. -/
theorem signed_until_expiry (book : Blobs.AddressBook) (tree : Blobs.Disk) (now : Instant)
    (path : String) (minutes : Nat) (accepted : Blobs.isPlain path = true) :
    ∃ (expires : Int) (signature : String),
      expires = now.seconds + 60 * minutes ∧
      (Blobs.Store.disk tree).signedUrl book now path minutes =
        .ok (book.publicUrl path ++ "?expires=" ++ Text.decimalInt expires ++ "&signature=" ++
          signature) ∧
      (∀ (other : String) (second : Int),
        (book.message other second = book.message path expires ↔
          other = path ∧ second = expires) ∧
        (¬ Digests.Sha256.Collide (book.message other second) (book.message path expires) →
          ∀ later : Instant, book.verifies later other second signature = true ↔
            other = path ∧ second = expires ∧ later.seconds ≤ expires)) ∧
      (∀ (later : Instant) (given : String), given ≠ signature →
        book.verifies later path expires given = false) ∧
      ∀ (env : Env) (app : App) (drawn : Drawn) (request : Request) (written wanted : String)
        (given : Signature) (state : State) (stored : Blobs.Disk),
        state.blobs = .disk stored → request.AsksFor written → decodePart? written = some wanted →
        Signature.ofQuery? (Target.ofText request.target).query = some given →
          ((answer env app drawn request state).1.status = 403 ↔ ¬ given.InOrder env wanted) := by
  refine ⟨Blobs.AddressBook.expiry now minutes,
    book.signature path (Blobs.AddressBook.expiry now minutes), rfl, ?_, ?_, ?_, ?_⟩
  · rw [Blobs.Store.signedUrl, if_pos accepted]
    rfl
  · intro other second
    exact ⟨Blobs.AddressBook.message_inj, fun apart later =>
      Blobs.AddressBook.verifies_signature apart⟩
  · intro later given different
    rw [Bool.eq_false_iff, ne_eq, Blobs.AddressBook.verifies_iff]
    exact fun valid => different valid.2
  · intro env app drawn request written wanted given state stored disk asks decoded fields
    exact status_forbidden_iff disk asks decoded fields

/-- A colon in a path does not carry its signature over to another path: one issued for an hour
at the start of 1970 verifies to the last second of the hour, and neither after it, nor for a
shorter path with a later second, nor where it is cut off; half of it is forbidden. -/
theorem signed_until_expiry_colon :
    let book : Blobs.AddressBook := ⟨"http://localhost:3000/files", "secret"⟩
    let path := "test/1970/01/user/u:1/a:36.png"
    ∃ signature : String,
      book.verifies ⟨3600, 0⟩ path 3600 signature = true ∧
      book.verifies ⟨3601, 0⟩ path 3600 signature = false ∧
      book.verifies ⟨0, 0⟩ "test/1970/01/user/u:1/a" 36 signature = false ∧
      book.verifies ⟨0, 0⟩ path 3600 (signature ++ "0") = false ∧
      ∀ (env : Env) (app : App) (drawn : Drawn) (state : State),
        state.blobs = .disk {} →
          (answer env app drawn ⟨"GET", "/files/" ++ path ++ "?expires=3600", none, .empty⟩
            state).1.status = 403 := by
  obtain ⟨expires, signature, second, -, grants, others, serves⟩ :=
    signed_until_expiry ⟨"http://localhost:3000/files", "secret"⟩ {} ⟨0, 0⟩
      "test/1970/01/user/u:1/a:36.png" 60 (by decide +kernel)
  have hour : expires = 3600 := by rw [second]; rfl
  subst hour
  refine ⟨signature, ?_, ?_, ?_, ?_, ?_⟩
  · exact ((grants _ _).2 (fun collide => collide.1 rfl) _).2 ⟨rfl, rfl, by decide⟩
  · rw [Bool.eq_false_iff, ne_eq, (grants _ _).2 (fun collide => collide.1 rfl)]
    rintro ⟨-, -, late⟩
    exact absurd late (by decide)
  · rw [Bool.eq_false_iff, ne_eq, (grants _ _).2 (fun collide => absurd collide.2 (by decide +kernel))]
    rintro ⟨-, late, -⟩
    exact absurd late (by decide)
  · apply others
    intro same
    have length := congrArg String.length same
    simp at length
  · intro env app drawn state disk
    rw [serves env app drawn _ "test/1970/01/user/u:1/a:36.png" "test/1970/01/user/u:1/a:36.png"
      ⟨some 3600, none⟩ state {} disk ⟨.inl rfl, by decide +kernel⟩ (by decide +kernel)]
    · rintro ⟨⟩
    · have expires : Query.read? (Target.ofText
          "/files/test/1970/01/user/u:1/a:36.png?expires=3600").query "expires" int64? =
            some (some 3600) := by decide +kernel
      have signature : Query.text? (Target.ofText
          "/files/test/1970/01/user/u:1/a:36.png?expires=3600").query "signature" =
            some none := by decide +kernel
      simp [Signature.ofQuery?, expires, signature]

end Depot.Service
