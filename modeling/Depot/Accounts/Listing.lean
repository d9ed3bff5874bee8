import Depot.Accounts.Access

/-!
Looking at accounts: one by its identifier, or a page of them, the latest first.
-/

namespace Depot.Accounts

def maxPageSize : Nat := 100

def pageNumber (page : Nat) : Nat := max page 1

def pageSize (limit : Nat) : Nat := min (max limit 1) maxPageSize

def lookUp (env : Env) (id : Uuid) : Act Failure User := do
  match ← userById env id with
  | some user => return user
  | none => throw (.notFound id)

def list (env : Env) (page limit : Nat) : Act Failure (List User) :=
  usersOnPage env (pageNumber page) (pageSize limit)

end Depot.Accounts
