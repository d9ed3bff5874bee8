import Depot.Uuid
import Depot.Instant
import Depot.Json.Value

/-!
What every event says about itself, whatever it reports: its type, the record that it belongs to,
the request that it follows from, and its time.
-/

namespace Depot

def Uuid.ofJson? (json : Json) : Option Uuid := json.string?.bind Uuid.parse?

def Uuid.json (id : Uuid) : Json := .str id.text

structure Stamp where
  typeName : String
  record : Uuid
  correlation : Uuid
  time : Instant
deriving DecidableEq, Repr

end Depot
