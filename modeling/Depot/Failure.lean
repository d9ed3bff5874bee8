import Depot.Uuid

/-!
What can go wrong in the accounts and in the stores of records, and the wording of each case.
-/

namespace Depot

inductive Failure
  | notFound (id : Uuid)
  | alreadyExists (what : String)
  | invalid (reason : String)
  | internal (cause : String)
deriving DecidableEq, Repr

namespace Failure

def message : Failure → String
  | notFound id => "aggregate not found: " ++ id.text
  | alreadyExists what => "already exists: " ++ what
  | invalid reason => "validation error: " ++ reason
  | internal cause => "infrastructure error: " ++ cause

end Failure

end Depot
