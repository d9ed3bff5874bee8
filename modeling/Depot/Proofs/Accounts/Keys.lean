import Depot.Proofs.Accounts.Revision

/-!
# Keys of stored users

A key that no two stored users share stays so when a user with a new key is added, when a
user goes, and when a user is put in its own place under a key that nobody else has.
Identifiers are such keys under every use case.
-/

set_option autoImplicit false

namespace Depot.Accounts

variable {β : Type} {key : User → β} {records : List User} {user old : User}

theorem nodup_replaceFirst (ids : (records.map (·.id)).Nodup) (keys : (records.map key).Nodup)
    (own : ∀ other ∈ records, other.id ≠ user.id → key other ≠ key user) :
    ((Users.replaceFirst user records).map key).Nodup := by
  induction records with
  | nil => exact .nil
  | cons first rest ih =>
    rw [List.map_cons, List.nodup_cons] at ids keys
    obtain ⟨alone, restIds⟩ := ids
    obtain ⟨unshared, restKeys⟩ := keys
    have later : ∀ other ∈ rest, other.id ≠ user.id → key other ≠ key user :=
      fun other member => own other (.tail _ member)
    rw [Users.replaceFirst]
    split_ifs with here
    · rw [List.map_cons, List.nodup_cons]
      refine ⟨?_, restKeys⟩
      intro taken
      obtain ⟨other, member, same⟩ := List.mem_map.1 taken
      have another : other.id ≠ user.id := by
        rw [← here]
        intro again
        exact alone (again ▸ List.mem_map_of_mem member)
      exact later other member another same
    · rw [List.map_cons, List.nodup_cons]
      refine ⟨?_, ih restIds restKeys later⟩
      intro taken
      obtain ⟨other, member, same⟩ := List.mem_map.1 taken
      rcases mem_replaceFirst member with rfl | present
      · exact own first (.head _) here same.symm
      · exact unshared (same ▸ List.mem_map_of_mem present)

/-- Where identifiers are distinct, one record is overwritten and the others stay. -/
theorem replaceFirst_eq_map (ids : (records.map (·.id)).Nodup) :
    Users.replaceFirst user records =
      records.map fun other => if other.id = user.id then user else other := by
  induction records with
  | nil => rfl
  | cons first rest ih =>
    rw [List.map_cons, List.nodup_cons] at ids
    rw [Users.replaceFirst, List.map_cons]
    split_ifs with here
    · -- nobody behind the record has its identifier
      rw [List.map_congr_left (g := id), List.map_id]
      intro other member
      refine if_neg fun same => ids.1 ?_
      rw [here, ← same]
      exact List.mem_map_of_mem member
    · rw [ih ids.2]

theorem mem_replaceFirst_self (member : old ∈ records) (same : old.id = user.id) :
    user ∈ Users.replaceFirst user records := by
  induction records with
  | nil => cases member
  | cons first rest ih =>
    rw [Users.replaceFirst]
    split_ifs with here
    · exact .head _
    · rcases List.mem_cons.1 member with rfl | later
      · exact absurd same here
      · exact .tail _ (ih later)

theorem mem_replaceFirst_of_ne (member : old ∈ records) (another : old.id ≠ user.id) :
    old ∈ Users.replaceFirst user records := by
  induction records with
  | nil => cases member
  | cons first rest ih =>
    rw [Users.replaceFirst]
    split_ifs with here
    · rcases List.mem_cons.1 member with rfl | later
      · exact absurd here another
      · exact .tail _ later
    · rcases List.mem_cons.1 member with rfl | later
      · exact .head _
      · exact .tail _ (ih later)

theorem nodup_erase {users : Users} (keys : (users.records.map key).Nodup) (id : Uuid) :
    ((users.erase id).records.map key).Nodup :=
  keys.sublist (List.filter_sublist.map key)

theorem own_of_old (key : User → β) (keys : (records.map key).Nodup) (member : old ∈ records)
    (id : user.id = old.id) (same : key user = key old) :
    ∀ other ∈ records, other.id ≠ user.id → key other ≠ key user := by
  intro other present another shared
  have again : other = old := List.inj_on_of_nodup_map keys present member (shared.trans same)
  exact another (again ▸ id.symm)

theorem new_of_find [DecidableEq β] (key : User → β)
    (found : records.find? (key · = key user) = none) :
    ∀ other ∈ records, key other ≠ key user := by
  intro other present
  simpa using List.find?_eq_none.1 found other present

theorem own_of_find [DecidableEq β] (key : User → β) (keys : (records.map key).Nodup)
    (found : ∀ other, records.find? (key · = key user) = some other → other.id = user.id) :
    ∀ other ∈ records, other.id ≠ user.id → key other ≠ key user := by
  intro other present another shared
  cases first : records.find? (key · = key user) with
  | none => exact new_of_find key first other present shared
  | some hit =>
    have there : hit ∈ records := List.mem_of_find?_eq_some first
    have same : key hit = key user := by simpa using List.find?_some first
    have again : other = hit := List.inj_on_of_nodup_map keys present there (shared.trans same.symm)
    exact another (again ▸ found hit first)

/-! ## The keys of an amended user -/

variable {env : Env} {users : Users}

theorem Amends.kept (amends : Amends env users old user) :
    user.id = old.id ∧ user.createdAt = old.createdAt := by
  induction amends with
  | refl => exact ⟨rfl, rfl⟩
  | rename before read own ih => exact ih
  | changeEmail before isEmail own ih => exact ih
  | changePasswordHash before hash ih => exact ih
  | assignRoles before filled ih => exact ih

theorem Amends.username (amends : Amends env users old user)
    (names : (users.records.map (·.username.text)).Nodup) (member : old ∈ users.records) :
    ∀ other ∈ users.records, other.id ≠ user.id → other.username.text ≠ user.username.text := by
  induction amends with
  | refl => exact own_of_old (·.username.text) names member rfl rfl
  | rename before read own ih => exact own_of_find (·.username.text) names own
  | changeEmail before isEmail own ih => exact ih
  | changePasswordHash before hash ih => exact ih
  | assignRoles before filled ih => exact ih

theorem Amends.email (amends : Amends env users old user)
    (emails : (users.records.map (·.email)).Nodup) (member : old ∈ users.records) :
    ∀ other ∈ users.records, other.id ≠ user.id → other.email ≠ user.email := by
  induction amends with
  | refl => exact own_of_old (·.email) emails member rfl rfl
  | rename before read own ih => exact ih
  | changeEmail before isEmail own ih => exact own_of_find (·.email) emails own
  | changePasswordHash before hash ih => exact ih
  | assignRoles before filled ih => exact ih

/-! ## Identifiers and emails -/

/-- No identifier and no email is stored twice. -/
structure Users.Distinct (users : Users) : Prop where
  ids : (users.records.map (·.id)).Nodup
  emails : (users.records.map (·.email)).Nodup

theorem Users.Distinct.join {given : String} (distinct : users.Distinct)
    (joins : Joins env users given user) :
    Users.Distinct ⟨users.records ++ [user.detached]⟩ where
  ids := nodup_map_concat distinct.ids joins.newId
  emails := nodup_map_concat distinct.emails (new_of_find (·.email) joins.newEmail)

theorem Users.Distinct.replace (distinct : users.Distinct) (member : old ∈ users.records)
    (amends : Amends env users old user) :
    Users.Distinct ⟨Users.replaceFirst user.detached users.records⟩ where
  ids := nodup_replaceFirst distinct.ids distinct.ids fun _ _ another => another
  emails := nodup_replaceFirst distinct.ids distinct.emails (amends.email distinct.emails member)

theorem Users.Distinct.erase (distinct : users.Distinct) (id : Uuid) : (users.erase id).Distinct :=
  ⟨nodup_erase distinct.ids id, nodup_erase distinct.emails id⟩

theorem distinct_revised {operation : Operation} {later : Users}
    (revision : operation.Revision env users later) (distinct : users.Distinct) :
    later.Distinct := by
  cases revision with
  | same => exact distinct
  | registered joins read free => exact distinct.join joins
  | provisioned joins named => exact distinct.join joins
  | changed found amends => exact distinct.replace (List.mem_of_find?_eq_some found) amends
  | deleted id correlation => exact distinct.erase id

theorem ids_revised {operation : Operation} {later : Users}
    (revision : operation.Revision env users later) (ids : (users.records.map (·.id)).Nodup) :
    (later.records.map (·.id)).Nodup := by
  cases revision with
  | same => exact ids
  | registered joins read free => exact nodup_map_concat ids joins.newId
  | provisioned joins named => exact nodup_map_concat ids joins.newId
  | changed found amends => exact nodup_replaceFirst ids ids fun other present another => another
  | deleted id correlation => exact nodup_erase ids id

end Depot.Accounts
