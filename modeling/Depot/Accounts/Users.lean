import Depot.Accounts.User

/-!
The stored users, in the order in which they were added. Identifiers are unique; stored users carry
no events.
-/

namespace Depot.Accounts

structure Users where
  records : List User := []
deriving Repr

namespace Users

def findById? (users : Users) (id : Uuid) : Option User := users.records.find? (·.id = id)

def findByUsername? (users : Users) (name : String) : Option User :=
  users.records.find? (·.username.text = name)

def findByEmail? (users : Users) (email : String) : Option User :=
  users.records.find? (·.email = email)

/-- How many users the pages before `page` take up. The number is capped as a word of 32 bits is. -/
def skip (page limit : Nat) : Nat := min ((page - 1) * limit) Text.maxWord32

/-- One page of the users, the latest added first. Pages are counted from 1. -/
def page (users : Users) (page limit : Nat) : List User :=
  (users.records.reverse.drop (skip page limit)).take limit

def insert (users : Users) (user : User) : Except Failure Users :=
  if users.records.any (·.id = user.id) then
    .error (.alreadyExists ("user " ++ user.id.text))
  else .ok ⟨users.records ++ [user.detached]⟩

def replaceFirst (user : User) : List User → List User
  | [] => []
  | old :: rest => if old.id = user.id then user :: rest else old :: replaceFirst user rest

def update (users : Users) (user : User) : Except Failure Users :=
  if users.records.any (·.id = user.id) then .ok ⟨replaceFirst user.detached users.records⟩
  else .error (.notFound user.id)

def erase (users : Users) (id : Uuid) : Users := ⟨users.records.filter (·.id ≠ id)⟩

/-- Users taken over as they are given, without their events. -/
def ofList (users : List User) : Users := ⟨users.map User.detached⟩

end Users

end Depot.Accounts
