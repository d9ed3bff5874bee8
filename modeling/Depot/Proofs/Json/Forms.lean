import Depot.Accounts.Event
import Depot.Files.Constraints
import Depot.Files.Event
import Depot.Pictures.Transform
import Depot.Proofs.Text.Encoded
import Mathlib.Data.List.Perm.Basic
import Mathlib.Tactic.Ring

/-!
# JSON forms are read back

A value is read from the form that it was written to.  Options are also read when members are
missing, when there are others, and in any order: what is missing has its usual value.  Owners and
payloads are not read when any one of their members is missing.
-/

set_option autoImplicit false

namespace Depot

/-! ## Identifiers -/

namespace Uuid

theorem length_digits (count n : Nat) : (digits count n).length = count := by
  induction count generalizing n with
  | zero => rfl
  | succ count ih => simp [digits, ih]

theorem number?_append (value : Nat) (early late : List Char) :
    number? value (early ++ late) = (number? value early).bind fun middle => number? middle late := by
  induction early generalizing value with
  | nil => rfl
  | cons c rest ih =>
    rw [List.cons_append, number?, number?]
    cases Text.hexValue? c with
    | none => rfl
    | some d => exact ih _

theorem number?_digits (count value n : Nat) :
    number? value (digits count n) = some (16 ^ count * value + n % 16 ^ count) := by
  induction count generalizing n with
  | zero => simp [digits, number?, Nat.mod_one]
  | succ count ih =>
    have digit := Text.hexValue?_hexDigit (n % 16) (Nat.mod_lt n (by omega))
    have split : n % 16 ^ (count + 1) = 16 * (n / 16 % 16 ^ count) + n % 16 := by
      rw [pow_succ', Nat.mod_mul]
      omega
    rw [digits, number?_append, ih, Option.bind_some, number?, digit, Option.bind_some, number?,
      split, pow_succ']
    congr 1
    ring

theorem take_append_drop_drop (m n : Nat) (cs : List Char) :
    (cs.drop m).take n ++ cs.drop (m + n) = cs.drop m := by
  rw [← List.drop_drop, List.take_append_drop]

theorem unhyphenate?_hyphenate {ds : List Char} (length : ds.length = 32) :
    unhyphenate? (hyphenate ds) = some ds := by
  have whole : ds.take 8 ++ ((ds.drop 8).take 4 ++ ((ds.drop 12).take 4 ++
      ((ds.drop 16).take 4 ++ ds.drop 20))) = ds := by
    rw [take_append_drop_drop 16 4, take_append_drop_drop 12 4, take_append_drop_drop 8 4,
      List.take_append_drop]
  simpa [unhyphenate?, hyphenate, List.take_append, List.drop_append, List.drop_take, length]
    using whole

theorem length_hyphenate {ds : List Char} (length : ds.length = 32) :
    (hyphenate ds).length = 36 := by
  simp [hyphenate, length]

theorem parse?_text (id : Uuid) : parse? id.text = some id := by
  have length := length_digits 32 id.value
  have digits : bareDigits? (hyphenate (digits 32 id.value)) = some (Uuid.digits 32 id.value) := by
    rw [bareDigits?, length_hyphenate length]
    exact unhyphenate?_hyphenate length
  have bound : id.value.val % 16 ^ 32 = id.value.val := Nat.mod_eq_of_lt id.value.isLt
  rw [parse?, text, String.toList_ofList, digits, Option.bind_some, number?_digits, bound]
  simp [ofNat]

theorem ofJson?_json (id : Uuid) : ofJson? id.json = some id := by
  rw [ofJson?, json, Json.string?, Option.bind_some, parse?_text]

end Uuid

/-! ## Members of objects -/

namespace Json

def members : Json → List (String × Json)
  | obj members => members
  | _ => []

/-- An object without the members of a name. -/
def without (name : String) (json : Json) : Json := .obj (json.members.filter (·.1 ≠ name))

section Members

variable {extra given other : List (String × Json)} {kept : String → Bool} {name : String}

theorem member?_perm (same : given.Perm other) : member? name given = member? name other := by
  have filtered := same.filter (·.1 == name)
  unfold member?
  generalize given.filter (·.1 == name) = first at filtered ⊢
  generalize other.filter (·.1 == name) = second at filtered ⊢
  match first, second, filtered with
  | [], [], _ => rfl
  | [_], [_], filtered => rw [List.singleton_perm_singleton.1 filtered]
  | _ :: _ :: _, _ :: _ :: _, _ => rfl
  | [], _ :: _, filtered => cases filtered.length_eq
  | _ :: _, [], filtered => cases filtered.length_eq
  | [_], _ :: _ :: _, filtered => cases filtered.length_eq
  | _ :: _ :: _, [_], filtered => cases filtered.length_eq

theorem member?_part {form : Json}
    (unknown : ∀ member ∈ extra, member.1 ∉ form.members.map (·.1))
    (order : given.Perm (form.members.filter (kept ·.1) ++ extra)) (name : String) (value : Json)
    (single : form.members.filter (·.1 == name) = [(name, value)]) :
    member? name given = some (if kept name then some value else none) := by
  have there : (name, value) ∈ form.members.filter (·.1 == name) := by simp [single]
  have listed := List.mem_map_of_mem (f := Prod.fst) (List.mem_filter.1 there).1
  have others : extra.filter (·.1 == name) = [] := by
    rw [List.filter_eq_nil_iff]
    intro member present same
    have same : member.1 = name := by simpa using same
    exact unknown member present (same ▸ listed)
  have swapped : (form.members.filter (kept ·.1)).filter (·.1 == name) =
      [(name, value)].filter (kept ·.1) := by
    rw [← single, List.filter_filter, List.filter_filter]
    simp only [Bool.and_comm]
  rw [member?_perm order, member?, List.filter_append, others, swapped, List.append_nil]
  cases keeps : kept name <;> simp [keeps]

theorem member?_none (missing : ∀ member ∈ given, member.1 ≠ name) :
    member? name given = some none := by
  have nothing : given.filter (·.1 == name) = [] := by
    simpa using fun key content member => missing (key, content) member
  rw [member?, nothing]

theorem member?_filter (name : String) (given : List (String × Json)) :
    member? name (given.filter (·.1 ≠ name)) = some none := by
  apply member?_none
  intro member there
  simpa using (List.mem_filter.1 there).2

theorem record?_missing {names : List String} {values : List (Option Json)} (listed : name ∈ names)
    (missing : member? name given = some none)
    (read : (obj given).record? names = some values) : none ∈ values := by
  rw [record?] at read
  induction names generalizing values with
  | nil => cases listed
  | cons first rest ih =>
    rw [List.mapM_cons] at read
    obtain ⟨value, found, others⟩ := Option.bind_eq_some_iff.1 read
    obtain ⟨more, later, made⟩ := Option.bind_eq_some_iff.1 others
    obtain rfl : value :: more = values := by simpa using made
    rcases List.mem_cons.1 listed with rfl | behind
    · rw [missing] at found
      cases found
      exact .head _
    · exact .tail _ (ih behind later)

end Members

/-! ## Kinds of forms -/

variable {α : Type}

/-- Values are read from their forms, and from forms with some members left out, others added, and
in any order: then what is missing has its usual value. -/
structure Lenient (json : α → Json) (ofJson? : Json → Option α)
    (keeping : (String → Bool) → α → α) : Prop where
  reads : ∀ value, ofJson? (json value) = some value
  parts : ∀ value kept extra given,
    (∀ member ∈ extra, member.1 ∉ (json value).members.map (·.1)) →
    given.Perm ((json value).members.filter (kept ·.1) ++ extra) →
    ofJson? (.obj given) = some (keeping kept value)

/-- Values are read from their forms, but from no form without one of its members. -/
structure Strict (json : α → Json) (ofJson? : Json → Option α) : Prop where
  reads : ∀ value, ofJson? (json value) = some value
  lacks : ∀ value, ∀ name ∈ (json value).members.map (·.1),
    ofJson? ((json value).without name) = none

/-- Values of a kind are read from their forms, a name and members, but from none without the name
or one of the members. -/
structure Tagged (valid : α → Prop) (json : α → Json) (ofJson? : Json → Option α) : Prop where
  reads : ∀ value, valid value → ofJson? (json value) = some value
  lacks : ∀ value, ∃ tag members, json value = .obj [(tag, .obj members)] ∧
    ofJson? ((json value).without tag) = none ∧
    ∀ name ∈ members.map (·.1), ofJson? (.obj [(tag, (Json.obj members).without name)]) = none

/-- A form with all members, and no others, in their order. -/
theorem perm_members (members : List (String × Json)) :
    members.Perm (members.filter (fun _ => true) ++ []) := by
  simp

/-! ## Numbers and lists -/

theorem natUpTo?_nat {largest n : Nat} (within : n ≤ largest) :
    (nat n).natUpTo? largest = some n := if_pos within

theorem list?_texts (items : List String) : (arr (items.map str)).list? string? = some items := by
  rw [list?]
  induction items with
  | nil => rfl
  | cons item rest ih =>
    rw [List.map_cons, List.mapM_cons, ih]
    rfl

end Json

/-! ## Limits on uploads -/

namespace Files.Constraints

open Json

theorem word64?_nat (n : UInt64) : word64? (.nat n.toNat) = some n := by
  have within : n.toNat ≤ Text.maxWord64 := Nat.le_of_lt_succ n.toNat_lt
  rw [word64?, natUpTo?_nat within, Option.map_some, UInt64.ofNat_toNat]

theorem word32?_nat (n : UInt32) : word32? (.nat n.toNat) = some n := by
  have within : n.toNat ≤ Text.maxWord32 := Nat.le_of_lt_succ n.toNat_lt
  rw [word32?, natUpTo?_nat within, Option.map_some, UInt32.ofNat_toNat]

theorem limit?_kept {α : Type} {read : Json → Option α} {write : α → Json}
    (inverse : ∀ content, read (write content) = some content)
    (notNull : ∀ content, write content ≠ .null) (keep : Bool) (content : Option α) :
    limit? read (if keep then some (.ofOption write content) else none) =
      some (if keep then content else none) := by
  cases keep with
  | false => rfl
  | true =>
    cases content with
    | none => rfl
    | some content =>
      have read := inverse content
      have notNull := notNull content
      simp only [if_true, limit?, ofOption]
      unfold nullable?
      split
      · rename_i null
        exact absurd null notNull
      · rw [read]
        rfl

/-- The limits of some names; the others have their usual values. -/
def keeping (kept : String → Bool) (limits : Constraints) : Constraints where
  allowedMimeTypes := if kept "allowed_mime_types" then limits.allowedMimeTypes
    else ({} : Constraints).allowedMimeTypes
  maxSizeBytes := if kept "max_size_bytes" then limits.maxSizeBytes
    else ({} : Constraints).maxSizeBytes
  minWidth := if kept "min_width" then limits.minWidth else ({} : Constraints).minWidth
  maxWidth := if kept "max_width" then limits.maxWidth else ({} : Constraints).maxWidth
  minHeight := if kept "min_height" then limits.minHeight else ({} : Constraints).minHeight
  maxHeight := if kept "max_height" then limits.maxHeight else ({} : Constraints).maxHeight

theorem ofJson?_part {limits : Constraints} {kept : String → Bool}
    {extra given : List (String × Json)}
    (unknown : ∀ member ∈ extra, member.1 ∉ limits.json.members.map (·.1))
    (order : given.Perm (limits.json.members.filter (kept ·.1) ++ extra)) :
    ofJson? (.obj given) = some (limits.keeping kept) := by
  have found := member?_part unknown order
  simp only [ofJson?, record?, List.mapM_cons, List.mapM_nil, found "allowed_mime_types" _ rfl,
    found "max_size_bytes" _ rfl, found "min_width" _ rfl, found "max_width" _ rfl,
    found "min_height" _ rfl, found "max_height" _ rfl, pure, bind, Option.bind,
    limit?_kept list?_texts (by simp), limit?_kept word64?_nat (by simp [nat]),
    limit?_kept word32?_nat (by simp [nat])]
  rfl

theorem lenient : Lenient json ofJson? keeping where
  reads limits := by
    exact @ofJson?_part limits (fun _ => true) [] _ (by simp) (perm_members _)
  parts _ _ _ _ := ofJson?_part

end Files.Constraints

/-! ## Changes of pictures -/

namespace Pictures.Transform

open Json

theorem quality?_nat (n : UInt8) : quality? (.nat n.toNat) = some n := by
  have within : n.toNat ≤ Text.maxWord8 := Nat.le_of_lt_succ n.toNat_lt
  rw [quality?, natUpTo?_nat within, Option.map_some, UInt8.ofNat_toNat]

theorem side?_kept (keep : Bool) (side : Option UInt32) :
    side? (if keep then some (.ofOption (fun n => .nat n.toNat) side) else none) =
      some (if keep then side else none) := by
  have same : side? = Files.Constraints.limit? Files.Constraints.word32? := by
    funext member
    cases member <;> rfl
  rw [same]
  exact Files.Constraints.limit?_kept Files.Constraints.word32?_nat (by simp [nat]) keep side

theorem given?_kept {α : Type} {read : Json → Option α} {usual content : α} {form : Json}
    (inverse : read form = some content) (keep : Bool) :
    given? usual read (if keep then some form else none) =
      some (if keep then content else usual) := by
  cases keep with
  | false => rfl
  | true => exact inverse

theorem fit?_name (fit : Fit) : fit? (.str fit.name) = some fit := by
  cases fit <;> rfl

theorem format?_name (format : Format) : format? (.str format.name) = some format := by
  cases format <;> rfl

/-- The parts of some names; the others are the usual ones. -/
def keeping (kept : String → Bool) (request : Transform) : Transform where
  width := if kept "width" then request.width else ({} : Transform).width
  height := if kept "height" then request.height else ({} : Transform).height
  fit := if kept "fit" then request.fit else ({} : Transform).fit
  quality := if kept "quality" then request.quality else ({} : Transform).quality
  format := if kept "format" then request.format else ({} : Transform).format

theorem ofJson?_part {request : Transform} {kept : String → Bool}
    {extra given : List (String × Json)}
    (unknown : ∀ member ∈ extra, member.1 ∉ request.json.members.map (·.1))
    (order : given.Perm (request.json.members.filter (kept ·.1) ++ extra)) :
    ofJson? (.obj given) = some (request.keeping kept) := by
  have found := member?_part unknown order
  simp only [ofJson?, record?, List.mapM_cons, List.mapM_nil, found "width" _ rfl,
    found "height" _ rfl, found "fit" _ rfl, found "quality" _ rfl, found "format" _ rfl, pure, bind,
    Option.bind, side?_kept, given?_kept (fit?_name _), given?_kept (quality?_nat _),
    given?_kept (format?_name _)]
  rfl

theorem lenient : Lenient json ofJson? keeping where
  reads request := by
    exact @ofJson?_part request (fun _ => true) [] _ (by simp) (perm_members _)
  parts _ _ _ _ := ofJson?_part

end Pictures.Transform

/-! ## Owners -/

namespace Files.Owner

open Json

theorem strict : Strict json ofJson? where
  reads owner := rfl
  lacks owner name named := by
    unfold ofJson?
    split
    · rename_i read
      have gap := record?_missing named (member?_filter name _) read
      simp at gap
    · rfl

end Files.Owner

/-! ## Payloads -/

namespace Accounts.Payload

open Json

variable {given : List (String × Json)} {name : String}

theorem createdOfJson?_none (listed : name ∈ ["user_id", "username", "email"])
    (missing : member? name given = some none) : createdOfJson? (.obj given) = none := by
  unfold createdOfJson?
  split
  · rename_i read
    have gap := record?_missing listed missing read
    simp at gap
  · rfl

theorem deletedOfJson?_none (listed : name ∈ ["user_id"])
    (missing : member? name given = some none) : deletedOfJson? (.obj given) = none := by
  unfold deletedOfJson?
  split
  · rename_i read
    have gap := record?_missing listed missing read
    simp at gap
  · rfl

theorem createdOfJson?_form (user : Uuid) (username email : String) :
    createdOfJson? (.obj [("user_id", user.json), ("username", .str username),
      ("email", .str email)]) = some (userCreated user username email) := by
  have read : record? ["user_id", "username", "email"] (.obj [("user_id", user.json),
      ("username", .str username), ("email", .str email)]) =
        some [some user.json, some (.str username), some (.str email)] := rfl
  rw [createdOfJson?, read]
  simp only [Uuid.ofJson?_json, string?, bind, Option.bind, pure]

theorem deletedOfJson?_form (user : Uuid) :
    deletedOfJson? (.obj [("user_id", user.json)]) = some (userDeleted user) := by
  have read : record? ["user_id"] (.obj [("user_id", user.json)]) = some [some user.json] := rfl
  rw [deletedOfJson?, read]
  simp only [Uuid.ofJson?_json, Option.map_some]

theorem ofJson?_created (content : Json) :
    ofJson? (.obj [("UserCreated", content)]) = createdOfJson? content := rfl

theorem ofJson?_deleted (content : Json) :
    ofJson? (.obj [("UserDeleted", content)]) = deletedOfJson? content := rfl

theorem tagged : Tagged (fun _ => True) json ofJson? where
  reads payload _ := by
    cases payload with
    | userCreated user username email =>
      exact (ofJson?_created _).trans (createdOfJson?_form user username email)
    | userDeleted user => exact (ofJson?_deleted _).trans (deletedOfJson?_form user)
  lacks payload := by
    cases payload with
    | userCreated user username email =>
      refine ⟨_, _, rfl, rfl, ?_⟩
      intro name listed
      exact createdOfJson?_none listed (member?_filter name _)
    | userDeleted user =>
      refine ⟨_, _, rfl, rfl, ?_⟩
      intro name listed
      exact deletedOfJson?_none listed (member?_filter name _)

end Accounts.Payload

namespace Files.Payload

open Json

variable {given : List (String × Json)} {name : String}

/-- The size of an upload is a number of 64 bits. -/
def Sized : Payload → Prop
  | uploaded _ _ _ _ size => size ≤ Text.maxWord64
  | deleted .. => True

theorem uploadedOfJson?_none
    (listed : name ∈ ["file_id", "entity_type", "entity_id", "field", "path", "mime_type", "size"])
    (missing : member? name given = some none) : uploadedOfJson? (.obj given) = none := by
  unfold uploadedOfJson?
  split
  · rename_i read
    have gap := record?_missing listed missing read
    simp at gap
  · rfl

theorem deletedOfJson?_none
    (listed : name ∈ ["file_id", "entity_type", "entity_id", "field", "path"])
    (missing : member? name given = some none) : deletedOfJson? (.obj given) = none := by
  unfold deletedOfJson?
  split
  · rename_i read
    have gap := record?_missing listed missing read
    simp at gap
  · rfl

theorem uploadedOfJson?_form (file : Uuid) (owner : Owner) (path mimeType : String) {size : Nat}
    (within : size ≤ Text.maxWord64) :
    uploadedOfJson? (.obj (sharedMembers file owner path ++
      [("mime_type", .str mimeType), ("size", .nat size)])) =
        some (uploaded file owner path mimeType size) := by
  have read : record? ["file_id", "entity_type", "entity_id", "field", "path", "mime_type", "size"]
      (.obj (sharedMembers file owner path ++ [("mime_type", .str mimeType), ("size", .nat size)])) =
        some [some file.json, some (.str owner.entityType), some (.str owner.entityId),
          some (.str owner.field), some (.str path), some (.str mimeType), some (.nat size)] := rfl
  rw [uploadedOfJson?, read]
  simp only [Uuid.ofJson?_json, string?, natUpTo?_nat within, bind, Option.bind, pure]

theorem deletedOfJson?_form (file : Uuid) (owner : Owner) (path : String) :
    deletedOfJson? (.obj (sharedMembers file owner path)) = some (deleted file owner path) := by
  have read : record? ["file_id", "entity_type", "entity_id", "field", "path"]
      (.obj (sharedMembers file owner path)) =
        some [some file.json, some (.str owner.entityType), some (.str owner.entityId),
          some (.str owner.field), some (.str path)] := rfl
  rw [deletedOfJson?, read]
  simp only [Uuid.ofJson?_json, string?, bind, Option.bind, pure]

theorem ofJson?_uploaded (content : Json) :
    ofJson? (.obj [("FileUploaded", content)]) = uploadedOfJson? content := rfl

theorem ofJson?_deleted (content : Json) :
    ofJson? (.obj [("FileDeleted", content)]) = deletedOfJson? content := rfl

theorem tagged : Tagged Sized json ofJson? where
  reads payload sized := by
    cases payload with
    | uploaded file owner path mimeType size =>
      exact (ofJson?_uploaded _).trans (uploadedOfJson?_form file owner path mimeType sized)
    | deleted file owner path =>
      exact (ofJson?_deleted _).trans (deletedOfJson?_form file owner path)
  lacks payload := by
    cases payload with
    | uploaded file owner path mimeType size =>
      refine ⟨_, _, rfl, rfl, ?_⟩
      intro name listed
      exact uploadedOfJson?_none listed (member?_filter name _)
    | deleted file owner path =>
      refine ⟨_, _, rfl, rfl, ?_⟩
      intro name listed
      exact deletedOfJson?_none listed (member?_filter name _)

end Files.Payload

/-- **JSON forms.**  Options are read from any part of their forms, in any order and beside unknown
members, with the usual values for what is missing.  Owners and payloads are read from their forms
and from none that lacks a member. -/
theorem forms_read_back :
    Json.Lenient Files.Constraints.json Files.Constraints.ofJson? Files.Constraints.keeping ∧
      Json.Lenient Pictures.Transform.json Pictures.Transform.ofJson? Pictures.Transform.keeping ∧
      Json.Strict Files.Owner.json Files.Owner.ofJson? ∧
      Json.Tagged (fun _ => True) Accounts.Payload.json Accounts.Payload.ofJson? ∧
      Json.Tagged Files.Payload.Sized Files.Payload.json Files.Payload.ofJson? :=
  ⟨Files.Constraints.lenient, Pictures.Transform.lenient, Files.Owner.strict,
    Accounts.Payload.tagged, Files.Payload.tagged⟩

example : Pictures.Transform.ofJson? (.obj [("format", .str "png"), ("note", .null),
    ("width", .nat 7)]) = some { width := some 7, format := .png } := rfl

end Depot
