import Depot.Proofs.Accounts.WellFormed
import Depot.Rows.Users

/-!
# Pages of users

A page is a window of the users, read from the one that was added last.  The windows of one size
lie side by side, so the pages one after the other are all the users, the latest first.  Users join
behind those who are there already, and no change moves the time at which a user was created.  As
long as the clock does not run backwards, the pages are therefore in the order of these times too.
-/

set_option autoImplicit false

namespace Depot

namespace Accounts

/-! ## The window of a page -/

namespace Users

variable {users : Users} {one other limit : Nat}

def newestFirst (users : Users) : List User := users.records.reverse

/-- The users at the places of a page, which are counted from the one that was added last. -/
def window (users : Users) (page limit : Nat) : List User :=
  users.newestFirst.extract ((page - 1) * limit) (page * limit)

end Users

/-! ## The order of times -/

/-- No user was created before those who were added earlier. -/
def Users.InOrder (users : Users) : Prop :=
  (users.records.map (·.createdAt)).Pairwise fun early late => early.le late = true

variable {env : Env} {users later : Users} {old user : User}

theorem Users.InOrder.newestFirst (ordered : users.InOrder) :
    users.newestFirst.Pairwise fun late early => early.createdAt.le late.createdAt = true :=
  List.pairwise_reverse.2 (List.pairwise_map.1 ordered)

theorem Users.InOrder.join {given : String} (ordered : users.InOrder) (sound : users.WellFormed)
    (changed : users.ChangedBy env.now) (joins : Joins env users given user) :
    Users.InOrder ⟨users.records ++ [user.detached]⟩ := by
  rw [InOrder, List.map_append, List.pairwise_append]
  refine ⟨ordered, List.pairwise_singleton _ _, ?_⟩
  intro time before last joined
  obtain ⟨other, present, rfl⟩ := List.mem_map.1 before
  obtain rfl : last = user.createdAt := List.mem_singleton.1 joined
  -- nobody was created after the last change, and no change is after the present time
  rw [joins.createdAt]
  exact Instant.le_trans (sound.each other present).times (changed other present)

end Accounts

end Depot
