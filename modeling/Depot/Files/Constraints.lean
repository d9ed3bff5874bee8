import Depot.Json.Value
import Depot.Files.Failure
import Depot.Files.Metadata
import Depot.Pictures.Sides

/-!
What an upload may be: the types allowed, the largest size, and bounds for the sides of pictures.
`judge` runs the checks in order and stops at the first one that fails. How the type of a content
and the sides of a picture are found out is a parameter, so that asking may act and fail.
-/

namespace Depot.Files

open Pictures (Sides)

structure Constraints where
  allowedMimeTypes : Option (List String) := none
  maxSizeBytes : Option UInt64 := none
  minWidth : Option UInt32 := none
  maxWidth : Option UInt32 := none
  minHeight : Option UInt32 := none
  maxHeight : Option UInt32 := none
deriving DecidableEq, Repr

namespace Constraints

/-- The types that are allowed where a request does not say. -/
def usualTypes : List String :=
  ["image/jpeg", "image/png", "image/gif", "image/webp", "image/avif", "application/pdf"]

def allowedTypes (limits : Constraints) : List String := limits.allowedMimeTypes.getD usualTypes

def hasBounds (limits : Constraints) : Bool :=
  limits.minWidth.isSome || limits.maxWidth.isSome || limits.minHeight.isSome ||
    limits.maxHeight.isSome

def belowMessage (side : String) (length : Nat) (bound : UInt32) : String :=
  "Image " ++ side ++ " (" ++ Text.decimal length ++ "px) is less than minimum (" ++
    Text.decimal bound.toNat ++ "px)"

def aboveMessage (side : String) (length : Nat) (bound : UInt32) : String :=
  "Image " ++ side ++ " (" ++ Text.decimal length ++ "px) exceeds maximum (" ++
    Text.decimal bound.toNat ++ "px)"

def below? (side : String) (length : Nat) (bound : Option UInt32) : Option String :=
  match bound with
  | some bound => if length < bound.toNat then some (belowMessage side length bound) else none
  | none => none

def above? (side : String) (length : Nat) (bound : Option UInt32) : Option String :=
  match bound with
  | some bound => if bound.toNat < length then some (aboveMessage side length bound) else none
  | none => none

def checkSides (limits : Constraints) (sides : Sides) : Option String :=
  below? "width" sides.width limits.minWidth <|> above? "width" sides.width limits.maxWidth <|>
    below? "height" sides.height limits.minHeight <|>
    above? "height" sides.height limits.maxHeight

inductive Verdict
  | valid (mimeType : String)
  | unrecognizedType
  | typeNotAllowed (detected : String) (allowed : List String)
  | tooLarge (actual limit : Nat)
  | invalidSides (reason : String)
deriving DecidableEq, Repr

def unreadableSides : String :=
  "Could not read image dimensions. File may not be a valid image."

def judgeSides (limits : Constraints) (mimeType : String) : Option Sides → Verdict
  | none => .invalidSides unreadableSides
  | some sides =>
    match limits.checkSides sides with
    | some reason => .invalidSides reason
    | none => .valid mimeType

/-- The checks in order: type, size, and the sides where the content is a picture and bounds are
given. -/
def judge {m : Type → Type} [Monad m] (limits : Constraints) (size : Nat)
    (detect : m (Option String)) (measure : m (Option Sides)) : m Verdict := do
  match ← detect with
  | none => return .unrecognizedType
  | some mimeType =>
    if mimeType ∉ limits.allowedTypes then
      return .typeNotAllowed mimeType limits.allowedTypes
    match limits.maxSizeBytes with
    | some limit =>
      if limit.toNat < size then return .tooLarge size limit.toNat
    | none => pure ()
    if isImageType mimeType && limits.hasBounds then
      return limits.judgeSides mimeType (← measure)
    return .valid mimeType

def Verdict.failure? (limits : Constraints) : Verdict → Option FileFailure
  | valid _ => none
  | unrecognizedType => some (.typeRefused none limits.allowedTypes)
  | typeNotAllowed detected allowed => some (.typeRefused (some detected) allowed)
  | tooLarge actual limit => some (.tooLarge actual limit)
  | invalidSides reason => some (.sidesRefused reason)

def Verdict.json : Verdict → Json
  | valid mimeType => .obj [("valid", .str mimeType)]
  | unrecognizedType => .str "unrecognized_type"
  | typeNotAllowed detected allowed =>
    .obj [("type_not_allowed", .str detected), ("allowed", .arr (allowed.map .str))]
  | tooLarge actual limit => .obj [("too_large", .nat actual), ("max_bytes", .nat limit)]
  | invalidSides reason => .obj [("invalid_dimensions", .str reason)]

def json (limits : Constraints) : Json :=
  .obj [
    ("allowed_mime_types", .ofOption (fun types => .arr (types.map .str)) limits.allowedMimeTypes),
    ("max_size_bytes", .ofOption (fun n => .nat n.toNat) limits.maxSizeBytes),
    ("min_width", .ofOption (fun n => .nat n.toNat) limits.minWidth),
    ("max_width", .ofOption (fun n => .nat n.toNat) limits.maxWidth),
    ("min_height", .ofOption (fun n => .nat n.toNat) limits.minHeight),
    ("max_height", .ofOption (fun n => .nat n.toNat) limits.maxHeight)]

def limit? (read : Json → Option α) : Option Json → Option (Option α)
  | none => some none
  | some value => value.nullable? read

def word64? (json : Json) : Option UInt64 := (json.natUpTo? Text.maxWord64).map UInt64.ofNat
def word32? (json : Json) : Option UInt32 := (json.natUpTo? Text.maxWord32).map UInt32.ofNat

def ofJson? (json : Json) : Option Constraints :=
  match json.record? ["allowed_mime_types", "max_size_bytes", "min_width", "max_width",
      "min_height", "max_height"] with
  | some [types, size, minWidth, maxWidth, minHeight, maxHeight] => do
    return {
      allowedMimeTypes := ← limit? (·.list? Json.string?) types
      maxSizeBytes := ← limit? word64? size
      minWidth := ← limit? word32? minWidth
      maxWidth := ← limit? word32? maxWidth
      minHeight := ← limit? word32? minHeight
      maxHeight := ← limit? word32? maxHeight }
  | _ => none

end Constraints

end Depot.Files
