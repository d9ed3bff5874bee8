import Depot.Failure
import Depot.Files.Settings

/-!
Who wants to be told of events: recorders, which only note that they were told, handlers that
refuse, and the handler that removes the files of a deleted user.
-/

namespace Depot

inductive AccountHandler
  | recorder (name : String)
  | refuser (failure : Failure)
  | fileRemover (policy : Files.CascadePolicy)
deriving DecidableEq, Repr

inductive FileHandler
  | recorder (name : String)
  | refuser (failure : Failure)
deriving DecidableEq, Repr

end Depot
