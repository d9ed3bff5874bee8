import Depot.Files.Settings
import Depot.Json.Value
import Depot.Text.Literal

/-!
The configuration of the service, read from named variables. Variables are looked at in a fixed
order, and the first one at fault is reported.
-/

namespace Depot.Service

structure Config where
  databaseUrl : String
  host : String
  port : UInt16
  environment : String
  storageRoot : String
  publicBaseUrl : String
  signingSecret : String
  replaceStrategy : Files.ReplaceStrategy
  cascade : Files.CascadePolicy
  maxUploadBytes : UInt64
deriving DecidableEq, Repr

inductive StartFault
  | config (reason : String)
  | database (reason : String)
  | startup (reason : String)
  | server (reason : String)
deriving DecidableEq, Repr

def StartFault.message : StartFault → String
  | config reason => "configuration error: " ++ reason
  | database reason => "database error: " ++ reason
  | startup reason => "startup error: " ++ reason
  | server reason => "server error: " ++ reason

namespace Config

def environments : List String := ["development", "production", "test"]

/-- The secret that signs addresses where none is given and it does not matter. -/
def builtInSecret : String := "bedrock-development-secret"

def usualMaxUploadBytes : UInt64 := 10485760

def portOf (given : Option String) : Except String UInt16 :=
  match Text.unsigned Text.maxWord16 (given.getD "3000") with
  | .ok n => .ok (UInt16.ofNat n)
  | .error fault => .error ("PORT must be a valid u16: " ++ fault.message)

def environmentOf (given : Option String) : Except String String :=
  let environment := given.getD "development"
  if environment ∈ environments then .ok environment
  else .error ("APP_ENV must be one of " ++ ", ".intercalate environments ++ ", got " ++
    environment)

/-- In production the secret has to be given. -/
def secretOf (environment : String) (given : Option String) : Except String String :=
  match given.filter (!·.isEmpty) with
  | some secret => .ok secret
  | none =>
    if environment = "production" then
      .error "STORAGE_SIGNING_SECRET must be set in production"
    else .ok builtInSecret

def strategyOf (given : Option String) : Except String Files.ReplaceStrategy :=
  match Files.ReplaceStrategy.parse (given.getD "delete-then-upload") with
  | .ok strategy => .ok strategy
  | .error failure => .error ("UPLOAD_REPLACE_STRATEGY: " ++ failure.message)

def cascadeOf (given : Option String) : Except String Files.CascadePolicy :=
  match Text.bool? (given.getD "true") with
  | some b => .ok ⟨b⟩
  | none => .error ("CASCADE_CONTINUE_ON_FAILURE: " ++ Text.boolMessage)

def maxUploadBytesOf : Option String → Except String UInt64
  | none => .ok usualMaxUploadBytes
  | some given =>
    match Text.unsigned Text.maxWord64 given with
    | .ok n => .ok (UInt64.ofNat n)
    | .error fault => .error ("MAX_UPLOAD_BYTES: " ++ fault.message)

def read (lookup : String → Option String) : Except String Config := do
  let some databaseUrl := lookup "DATABASE_URL" | throw "DATABASE_URL must be set"
  let port ← portOf (lookup "PORT")
  let environment ← environmentOf (lookup "APP_ENV")
  let signingSecret ← secretOf environment (lookup "STORAGE_SIGNING_SECRET")
  let replaceStrategy ← strategyOf (lookup "UPLOAD_REPLACE_STRATEGY")
  let cascade ← cascadeOf (lookup "CASCADE_CONTINUE_ON_FAILURE")
  let maxUploadBytes ← maxUploadBytesOf (lookup "MAX_UPLOAD_BYTES")
  return {
    databaseUrl
    host := (lookup "HOST").getD "0.0.0.0"
    port
    environment
    storageRoot := (lookup "STORAGE_ROOT").getD "./storage"
    publicBaseUrl := (lookup "STORAGE_PUBLIC_BASE_URL").getD "http://localhost:3000/files"
    signingSecret
    replaceStrategy
    cascade
    maxUploadBytes }

def settings (config : Config) : Files.Settings :=
  ⟨config.environment, config.replaceStrategy, config.cascade⟩

def settingsMembers (settings : Files.Settings) : List (String × Json) :=
  [("environment", .str settings.environment),
    ("replace_strategy", .str settings.replaceStrategy.text),
    ("continue_on_item_failure", .bool settings.cascade.continueOnItemFailure)]

def json (config : Config) : Json :=
  .obj ([("database_url", .str config.databaseUrl), ("host", .str config.host),
    ("port", .nat config.port.toNat), ("storage_root", .str config.storageRoot),
    ("public_base_url", .str config.publicBaseUrl),
    ("signing_secret", .str config.signingSecret),
    ("max_upload_bytes", .nat config.maxUploadBytes.toNat),
    ("settings", .obj (settingsMembers config.settings))] ++ settingsMembers config.settings)

end Config

end Depot.Service
