import Depot.Proofs.Files.OnDisk
import Depot.Proofs.Files.Strategies
import Depot.Proofs.Service.Addresses
import Depot.Proofs.Service.Serving

/-!
# Following an address

Whether the addresses of a file lead back to it is settled by its path: a request for an address
asks for the path, as long as none of its characters means something in an address.  A path in
which one does is asked for as a different one.
-/

set_option autoImplicit false

namespace Depot.Service

open Act Blobs

/-! ## The content that is asked for -/

variable {env : Env} {app : App} {drawn : Drawn} {request : Request} {state : State}
  {file : Files.File} {bytes : ByteArray}

theorem answer_get (method : request.method = "GET") :
    (answer env app drawn request state).1 =
      replyOf (app.wording request) ((act env app drawn request).runOn state).1 := by
  have head : request.method ≠ "HEAD" := by
    rw [method]
    decide
  unfold answer
  cases (act env app drawn request).runOn state with
  | mk result after => cases result <;> simp only [head, if_false, replyOf]

theorem replyOf_bytes {words : Unreadable → String} {result : Except Refusal Reply} {status : Nat}
    {mediaType : Option String} (answered : replyOf words result = ⟨status, mediaType, .bytes bytes⟩) :
    result = .ok ⟨status, mediaType, .bytes bytes⟩ := by
  cases result with
  | ok reply => exact congrArg Except.ok answered
  | error refusal =>
    have body := congrArg Reply.body answered
    cases refusal <;> cases body

theorem serveFrom_stored {tree : Disk} (files : env.outside.Reliable "files")
    (sendable : isHeaderText file.metadata.mimeType = true)
    (there : tree.read file.path.text = .ok (some bytes))
    (found : state.files.findByPath? file.path.text = some file) :
    ((serveFrom env tree file.path.text).runOn state).1 =
      .ok ⟨200, some file.metadata.mimeType, .bytes bytes⟩ := by
  have content : blobBytes tree file.path.text = .ok bytes := by
    rw [blobBytes, there]
  have asked : (onAccounts (Files.fileByPath env file.path.text)).runOn state =
      (.ok (some file), state.noted (.findFileByPath file.path.text)) := by
    rw [onAccounts, runOn_mapFailure, Files.fileByPath, Files.runOn_question, found,
      files.record (.findFileByPath file.path.text) _ rfl]
    rfl
  have first : (onFiles (Act.ofExcept (blobBytes tree file.path.text))).runOn state =
      (.ok bytes, state) := by
    rw [content]
    rfl
  rw [serveFrom, runOn_bind_ok first, runOn_bind_ok asked]
  simp [sendable]

theorem answer_stored {given : Signature} (files : env.outside.Reliable "files")
    (sendable : isHeaderText file.metadata.mimeType = true) (stored : state.Stores file bytes)
    (method : request.method = "GET")
    (asks : Resource.ofPath (Target.ofText request.target).path = some (.blob file.path.text))
    (plain : hasEscape file.path.text.toList = false)
    (fields : Signature.ofQuery? (Target.ofText request.target).query = some given)
    (inOrder : given.InOrder env file.path.text) :
    (answer env app drawn request state).1 =
      ⟨200, some file.metadata.mimeType, .bytes bytes⟩ := by
  obtain ⟨tree, disk, there⟩ := stored.content
  have served := serveFrom_stored files sendable there stored.byPath
  rw [answer_get method, act_asksFor ⟨.inl method, asks⟩,
    runOn_serveBlob disk (decodePart?_plain plain) fields, checkSignature_inOrder inOrder, pure_bind]
  rw [served]
  rfl

/-! ## Addresses that are handed out -/

/-- The address that a file is given: the lasting one, or one for some minutes. -/
def addressOf (book : AddressBook) (now : Instant) (path : String) : Option Nat → String
  | none => book.publicUrl path
  | some minutes => book.signedUrl now path minutes

/-- The signature that an address carries. -/
def signatureOf (book : AddressBook) (now : Instant) (path : String) : Option Nat → Signature
  | none => ⟨none, none⟩
  | some minutes => ⟨some (AddressBook.expiry now minutes),
      some (book.signature path (AddressBook.expiry now minutes))⟩

variable {book : AddressBook} {locator : Files.Locator} {minutes : Option Nat} {now : Instant}

theorem signedUrl_stored (storage : env.outside.Reliable "storage") (stored : state.Stores file bytes)
    (minutes : Nat) :
    (Files.onServices (Files.signedUrl env file.path.text minutes)).runOn state =
      (.ok (env.book.signedUrl env.now file.path.text minutes),
        state.noted (.signBlob file.path.text minutes)) := by
  obtain ⟨tree, disk, there⟩ := stored.content
  have plain := (Disk.read_some there).1
  have free := storage.backend (.signBlob file.path.text minutes) state.calls rfl
  have noted : (Files.notedService env (.signBlob file.path.text minutes)).runOn state =
      (.ok (.signBlob file.path.text minutes :: state.calls),
        state.noted (.signBlob file.path.text minutes)) := by
    rw [Files.notedService, runOn_note, free]
    rfl
  have issued : state.blobs.signedUrl env.book env.now file.path.text minutes =
      .ok (env.book.signedUrl env.now file.path.text minutes) := by
    rw [disk, Store.signedUrl, if_pos plain]
  rw [Files.onServices, runOn_mapFailure, Files.signedUrl, runOn_bind_ok noted,
    runOn_bind_ok (runOn_getThe _), runOn_ofExcept]
  exact Prod.ext (congrArg (Except.mapError _) issued) rfl

theorem link_stored (files : env.outside.Reliable "files") (storage : env.outside.Reliable "storage")
    (stored : state.Stores file bytes) (found : locator.find? state.files = some file) :
    ∃ link after, (Files.link env locator minutes).runOn state = (.ok link, after) ∧
      link.url = addressOf env.book env.now file.path.text minutes := by
  have located := Files.locate_present files found
  cases minutes with
  | none =>
    refine ⟨_, _, runOn_bind_ok located, rfl⟩
  | some minutes =>
    have same : (state.noted locator.call).Stores file bytes := ⟨stored.byId, stored.byPath, stored.content⟩
    have signed := signedUrl_stored storage same minutes
    refine ⟨_, _, (runOn_bind_ok located).trans (runOn_bind_ok signed), rfl⟩

theorem asks_addressOf (mounted : Mounted book) {path : String} (verbatim : Verbatim path)
    (filled : path ≠ "")
    (carried : ∀ m ∈ minutes, Carried (AddressBook.expiry now m)) :
    Resource.ofPath (Target.ofText (targetOf (addressOf book now path minutes))).path =
        some (.blob path) ∧
      Signature.ofQuery? (Target.ofText (targetOf (addressOf book now path minutes))).query =
        some (signatureOf book now path minutes) := by
  have noQuestion : '?' ∉ ("/files/" ++ path).toList := by
    simp [verbatim.noQuestion]
  have noHash : '#' ∉ ("/files/" ++ path).toList := by
    simp [verbatim.noHash]
  cases minutes with
  | none =>
    rw [addressOf, targetOf_publicUrl mounted, Target.ofText_path noHash noQuestion]
    exact ⟨Resource.ofPath_files filled, rfl⟩
  | some m =>
    have bare : '#' ∉ (signedFields book path (AddressBook.expiry now m)).toList := by
      simp [signedFields, bare_decimalInt _ '#' (by decide), bare_signature book path _ '#' (by decide)]
    rw [addressOf, targetOf_signedUrl mounted, Target.ofText_fields ⟨noHash, bare⟩ noQuestion]
    exact ⟨Resource.ofPath_files filled, ofQuery?_signedFields (carried m rfl) book path⟩

theorem inOrder_signatureOf {path : String}
    (early : ∀ m ∈ minutes, env.now.seconds ≤ AddressBook.expiry now m) :
    (signatureOf env.book now path minutes).InOrder env path := by
  cases minutes with
  | none => exact .absent
  | some m =>
    apply Signature.InOrder.verified
    exact AddressBook.verifies_iff.2 ⟨early m rfl, rfl⟩

/-! ## Texts that are read as they stand -/

/-- What is left of a text between the base of an address and the query. -/
def uncut (text : String) : String :=
  String.ofList ((text.toList.takeWhile (· ≠ '#')).takeWhile (· ≠ '?'))

theorem path_publicUrl (mounted : Mounted book) (path : String) :
    (Target.ofText (targetOf (book.publicUrl path))).path = "/files/" ++ uncut path := by
  rw [targetOf_publicUrl mounted, Target.path_ofText]
  apply String.toList_inj.1
  simp [uncut]

theorem verbatim_of_read {path : String} (read : decodePart? (uncut path) = some path) :
    Verbatim path := by
  obtain ⟨short, plain⟩ := decodePart?_size read
  have part : (path.toList.takeWhile (· ≠ '#')).takeWhile (· ≠ '?') <+: path.toList :=
    (List.takeWhile_prefix _).trans (List.takeWhile_prefix _)
  obtain ⟨rest, whole⟩ := part
  have parts : path = uncut path ++ String.ofList rest := by
    apply String.toList_inj.1
    rw [uncut, String.toList_append, String.toList_ofList, String.toList_ofList, whole]
  -- decoding adds no byte, so a part that is read as the whole is the whole
  have sizes := congrArg String.utf8ByteSize parts
  rw [String.utf8ByteSize_append] at sizes
  have nothing : String.ofList rest = "" := by
    apply String.utf8ByteSize_eq_zero_iff.1
    omega
  have same : uncut path = path := by
    rw [nothing, String.append_empty] at parts
    exact parts.symm
  have kept : (path.toList.takeWhile (· ≠ '#')).takeWhile (· ≠ '?') = path.toList := by
    rw [← String.toList_ofList (l := (path.toList.takeWhile (· ≠ '#')).takeWhile (· ≠ '?'))]
    exact congrArg String.toList same
  rw [same] at plain
  constructor
  · intro member
    rw [← kept] at member
    simpa using List.mem_takeWhile_imp member
  · intro member
    rw [← kept] at member
    simpa using List.mem_takeWhile_imp ((List.takeWhile_prefix _).subset member)
  · exact plain (Nat.le_refl _)

theorem serveFrom_recorded {tree : Disk} {path mediaType : String}
    (other : mediaType ≠ fallbackMediaType)
    (served : ((serveFrom env tree path).runOn state).1 = .ok ⟨200, some mediaType, .bytes bytes⟩) :
    ∃ record, state.files.findByPath? path = some record := by
  cases ran : (serveFrom env tree path).runOn state with
  | mk result after =>
    rw [ran] at served
    dsimp only at served
    rw [served] at ran
    obtain ⟨content, first, readied, rest⟩ := of_bind_ok ran
    obtain ⟨record, second, asked, rest⟩ := of_bind_ok rest
    have same : state = first := congrArg Prod.snd (of_mapFailure_ok readied)
    have found : record = state.files.findByPath? path := by
      rw [same]
      exact Files.question_ok env (of_mapFailure_ok asked)
    cases record with
    | some record => exact ⟨record, found.symm⟩
    | none =>
      -- without a record the media type is the usual one
      exfalso
      dsimp only at rest
      split_ifs at rest
      · rw [runOn_pure, Prod.mk.injEq, Except.ok.injEq, Reply.mk.injEq] at rest
        exact other (Option.some.inj rest.1.2.1).symm
      · cases rest

theorem recorded_of_answer {tree : Disk} {path mediaType : String} (mounted : Mounted book)
    (method : request.method = "GET") (target : request.target = targetOf (book.publicUrl path))
    (disk : state.blobs = .disk tree) (other : mediaType ≠ fallbackMediaType)
    (answered : (answer env app drawn request state).1 = ⟨200, some mediaType, .bytes bytes⟩) :
    ∃ read record, decodePart? (uncut path) = some read ∧
      state.files.findByPath? read = some record := by
  rw [answer_get method] at answered
  have served := replyOf_bytes answered
  have place : (Target.ofText request.target).path = "/files/" ++ uncut path := by
    rw [target, path_publicUrl mounted]
  by_cases empty : uncut path = ""
  · -- nothing is served at the mount itself
    have nowhere : Resource.ofPath (Target.ofText request.target).path = none := by
      rw [place, empty]
      decide +kernel
    unfold act at served
    simp only [nowhere] at served
    cases served
  · rw [act_asksFor ⟨.inl method, place ▸ Resource.ofPath_files empty⟩] at served
    cases decoded : decodePart? (uncut path) with
    | none =>
      rw [serveBlob, part, decoded] at served
      cases served
    | some read =>
      cases fields : Signature.ofQuery? (Target.ofText request.target).query with
      | none =>
        rw [serveBlob, part, decoded] at served
        simp only [need, pure_bind, queryPart, fields] at served
        cases served
      | some given =>
        rw [runOn_serveBlob disk decoded fields] at served
        by_cases inOrder : given.InOrder env read
        · rw [checkSignature_inOrder inOrder, pure_bind] at served
          obtain ⟨record, found⟩ := serveFrom_recorded other served
          exact ⟨read, record, rfl, found⟩
        · rw [checkSignature_forbidden inOrder, runOn_bind_error (runOn_throw _ state)] at served
          cases served

/-! ## Leading back -/

/-- Whatever address is handed out for a file while it is stored, a request for it is answered
with its content and media type as long as the file stays stored and the address has not expired. -/
def LeadsBack (book : AddressBook) (file : Files.File) (bytes : ByteArray) : Prop :=
  ∀ (env : Env) (state : State) (locator : Files.Locator) (minutes : Option Nat),
    env.book = book → env.outside.Reliable "files" → env.outside.Reliable "storage" →
    state.Stores file bytes → locator.find? state.files = some file →
    (∀ m ∈ minutes, Carried (AddressBook.expiry env.now m)) →
    ∃ link after, (Files.link env locator minutes).runOn state = (.ok link, after) ∧
      ∀ (later : Env) (app : App) (drawn : Drawn) (request : Request) (still : State),
        later.book = book → later.outside.Reliable "files" → still.Stores file bytes →
        (∀ m ∈ minutes, later.now.seconds ≤ AddressBook.expiry env.now m) →
        request.method = "GET" → request.target = targetOf link.url →
        (answer later app drawn request still).1 =
          ⟨200, some file.metadata.mimeType, .bytes bytes⟩

theorem leadsBack_of_verbatim (mounted : Mounted book)
    (sendable : isHeaderText file.metadata.mimeType = true) (verbatim : Verbatim file.path.text) :
    LeadsBack book file bytes := by
  rintro env state locator minutes rfl files storage stored found carried
  obtain ⟨link, after, ran, url⟩ :=
    @link_stored env state file bytes locator minutes files storage stored found
  refine ⟨link, after, ran, ?_⟩
  intro later app drawn request still same reliable stays early method target
  obtain ⟨asks, fields⟩ := @asks_addressOf env.book minutes env.now mounted file.path.text verbatim
    file.path.text_ne_empty carried
  rw [← url, ← target] at asks fields
  apply answer_stored reliable sendable stays method asks verbatim.noEscape fields
  rw [← same]
  exact inOrder_signatureOf early

def pictureAt (path : Files.Path) : Files.File where
  id := .nil
  owner := ⟨path.entityType, path.entityId, "picture"⟩
  filename := path.filename
  path
  metadata := ⟨"image/png", 0, none, none⟩
  createdAt := ⟨0, 0⟩
  updatedAt := ⟨0, 0⟩

theorem stores_pictureAt {root : Nat} {path : Files.Path} (storable : Storable root path.text) :
    ∃ tree, (State.mk {} ⟨[pictureAt path]⟩ (.disk tree) {} {} []).Stores (pictureAt path) .empty := by
  have stored := (Disk.storable_iff ByteArray.empty).1 storable
  refine ⟨_, ?_, ?_, _, rfl, Disk.read_upload stored⟩
  · simp [Files.Catalogue.findById?]
  · simp [Files.Catalogue.findByPath?]

theorem verbatim_of_leadsBack (mounted : Mounted book) {root : Nat} {path : Files.Path}
    (storable : Storable root path.text)
    (leads : LeadsBack book (pictureAt path) .empty) : Verbatim path.text := by
  obtain ⟨tree, stored⟩ := stores_pictureAt storable
  have plain : (Env.mk ⟨0, 0⟩ book .plain).outside.Reliable "files" := Outside.plain_reliable "files"
  obtain ⟨link, after, ran, answers⟩ := leads ⟨⟨0, 0⟩, book, .plain⟩ _ (.byId .nil) none rfl plain
    (Outside.plain_reliable "storage") stored stored.byId (fun _ absent => by cases absent)
  have url : link.url = book.publicUrl path.text := by
    obtain ⟨same, _, again, url⟩ := @link_stored ⟨⟨0, 0⟩, book, .plain⟩ _ _ _ (.byId .nil) none
      plain (Outside.plain_reliable "storage") stored stored.byId
    rw [ran, Prod.mk.injEq, Except.ok.injEq] at again
    rw [again.1, url]
    rfl
  have pictured : "image/png" ≠ fallbackMediaType := by decide
  have answered := answers ⟨⟨0, 0⟩, book, .plain⟩ ⟨{}, 0, fun _ _ => ""⟩ ⟨.nil, .nil, []⟩
    ⟨"GET", targetOf link.url, none, .empty⟩ _ rfl plain stored (fun _ absent => by cases absent)
    rfl rfl
  -- the picture is the only record, so the path that was looked for is its own
  obtain ⟨read, record, decoded, found⟩ :=
    recorded_of_answer mounted rfl (congrArg targetOf url) rfl pictured answered
  have there : read = path.text := by
    have only : record = pictureAt path :=
      List.mem_singleton.1 (List.mem_of_find?_eq_some found)
    have wanted : record.path.text = read := by simpa using List.find?_some found
    rw [← wanted, only]
    rfl
  rw [there] at decoded
  exact verbatim_of_read decoded

/-- **Addresses and files.**  Where the addresses point to the mount of contents, the addresses of
the files at a path lead back to them exactly if the path holds no question mark, no hash sign and
no escape, since it is put into them as it stands.  An upload that succeeds on disk leaves its file
stored, unless the swap that entered it removed the content of another file at the same place. -/
theorem leads_back_iff {book : AddressBook} (mounted : Mounted book) :
    (∀ (root : Nat) (path : Files.Path), Storable root path.text →
      ((∀ (file : Files.File) (bytes : ByteArray), file.path = path →
          isHeaderText file.metadata.mimeType = true → LeadsBack book file bytes) ↔
        Verbatim path.text)) ∧
      ∀ (env : Env) (strategy : Files.ReplaceStrategy) (request : Files.UploadRequest) (id : Uuid)
        (state after : State) (tree : Disk) (file : Files.File) (events : List Files.Event),
        state.blobs = .disk tree →
        (strategy = .uploadThenSwap → ∀ old, state.files.current? request.owner = some old →
          names old.path.text = names file.path.text → old.path = file.path) →
        (Files.upload env strategy request id).runOn state = (.ok (file, events), after) →
        ∃ bytes, bytes.size = file.metadata.size ∧ after.Stores file bytes := by
  constructor
  · intro root path storable
    constructor
    · intro leads
      have sendable : isHeaderText "image/png" = true := by decide +kernel
      exact verbatim_of_leadsBack mounted storable (leads (pictureAt path) .empty rfl sendable)
    · rintro verbatim file bytes rfl sendable
      exact leadsBack_of_verbatim mounted sendable verbatim
  · intro env strategy request id state after tree file events disk apart ran
    exact Files.upload_stores disk apart ran

def localBook : AddressBook := ⟨"http://localhost:3000/files", "secret"⟩

theorem mounted_localBook : Mounted localBook :=
  ⟨"http", "localhost:3000", by decide +kernel, by decide, by simp⟩

def asking : Files.Path := ⟨"test", 1970, 1, "user", "tenant", "a?b.pdf", by decide⟩

def telling : Files.Path := ⟨"test", 1970, 1, "user", "tenant", "a b.pdf", by decide⟩

/-- The addresses of a name with a blank lead back, those of a name with a question mark do not. -/
theorem leads_back_iff_asking :
    Mounted localBook ∧
      (∀ (file : Files.File) (bytes : ByteArray), file.path = telling →
        isHeaderText file.metadata.mimeType = true → LeadsBack localBook file bytes) ∧
      ¬ ∀ (file : Files.File) (bytes : ByteArray), file.path = asking →
        isHeaderText file.metadata.mimeType = true → LeadsBack localBook file bytes := by
  obtain ⟨exactly, -⟩ := leads_back_iff mounted_localBook
  have one : Storable 15 telling.text := (Disk.storable_iff .empty).2 (by decide +kernel)
  have two : Storable 15 asking.text := (Disk.storable_iff .empty).2 (by decide +kernel)
  refine ⟨mounted_localBook, (exactly 15 telling one).2 ?_, fun leads => ?_⟩
  · constructor <;> decide +kernel
  · exact absurd ((exactly 15 asking two).1 leads).noQuestion (by decide +kernel)

/-- A document with a question mark in its name is taken in and stored, and nothing is found at the
address that is handed out for it. -/
theorem asking_is_lost :
    let env : Env := ⟨⟨0, 0⟩, localBook, .plain⟩
    let upload := Files.upload env .deleteThenUpload (Files.noteRequest "a?b.pdf") (.ofNat 1)
    let after := (upload.runOn { blobs := .disk {} }).2
    let link := ((Files.link env (.byId (.ofNat 1)) none).runOn after).1
    after.files.records.map (·.path.text) = ["test/1970/01/user/tenant/a?b.pdf"] ∧
      link.toOption.map (·.url) =
        some "http://localhost:3000/files/test/1970/01/user/tenant/a?b.pdf" ∧
      (link.toOption.map fun link =>
        (answer env ⟨{}, 0, fun _ _ => ""⟩ ⟨.nil, .nil, []⟩ ⟨"GET", targetOf link.url, none, .empty⟩
          after).1.status) = some 404 := by
  decide +kernel

end Depot.Service
