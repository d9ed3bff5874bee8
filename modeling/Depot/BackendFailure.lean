/-!
What can go wrong in the services below the use cases: the store of contents, the inspection of
contents, and the work on pictures.
-/

namespace Depot

inductive BackendFailure
  | io (cause : String)
  | picture (cause : String)
  | refused (cause : String)
deriving DecidableEq, Repr

def BackendFailure.message : BackendFailure → String
  | io cause => "i/o error: " ++ cause
  | picture cause => "image error: " ++ cause
  | refused cause => "backend error: " ++ cause

end Depot
