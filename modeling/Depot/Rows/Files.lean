import Depot.Files.File
import Depot.Rows.Value

/-!
File records as rows: the statements on the table of files, and the record that a row holds. Sizes
and sides have columns of signed words, so that a record beyond their limits is refused before
anything is sent.
-/

namespace Depot.Rows

open Depot.Files

namespace FileRow

def columns : List String :=
  ["id", "entity_type", "entity_id", "field", "filename", "path", "mime_type", "size", "width",
    "height", "created_at", "updated_at"]

def columnList : String := ", ".intercalate columns

/-- A number as the value of a column, if it is within the column's limit. -/
def narrow (column : String) (largest n : Nat) : Except Failure Value :=
  if n ≤ largest then .ok (.int n)
  else .error (.invalid (column ++ " out of range: " ++ Text.LiteralFault.tooLarge.message))

def narrowOption (column : String) (largest : Nat) : Option Nat → Except Failure Value
  | none => .ok .null
  | some n => narrow column largest n

def leadingValues (file : File) : Except Failure (List Value) := do
  let size ← narrow "size" Text.maxInt64 file.metadata.size
  let width ← narrowOption "width" Text.maxInt32 file.metadata.width
  let height ← narrowOption "height" Text.maxInt32 file.metadata.height
  return [.uuid file.id, .text file.owner.entityType, .text file.owner.entityId,
    .text file.owner.field, .text file.filename, .text file.path.text,
    .text file.metadata.mimeType, size, width, height]

def natural (column : String) : Int → Except Failure Nat
  | .ofNat n => .ok n
  | .negSucc _ => .error (corrupt column Text.LiteralFault.tooSmall.message)

def naturalOption (column : String) : Option Int → Except Failure (Option Nat)
  | none => .ok none
  | some n => (natural column n).map some

def pathOf (text : String) : Except Failure Path :=
  match Path.parse text with
  | .ok path => .ok path
  | .error fault => .error (corrupt "path" fault.failure.message)

def file (row : Row) : Except Failure File := do
  let context := "failed to read file row"
  let path ← row.text context "path"
  let size ← row.int context "size"
  let width ← row.optionalInt context "width"
  let height ← row.optionalInt context "height"
  let mimeType ← row.text context "mime_type"
  let size ← natural "size" size
  let width ← naturalOption "width" width
  let height ← naturalOption "height" height
  let entityType ← row.text context "entity_type"
  let entityId ← row.text context "entity_id"
  let field ← row.text context "field"
  let id ← row.uuid context "id"
  let filename ← row.text context "filename"
  let path ← pathOf path
  let createdAt ← row.timestamp context "created_at"
  let updatedAt ← row.timestamp context "updated_at"
  return { id, owner := ⟨entityType, entityId, field⟩, filename, path,
           metadata := ⟨mimeType, size, width, height⟩, createdAt, updatedAt }

end FileRow

def selectFiles (condition : String) : String :=
  "SELECT " ++ FileRow.columnList ++ " FROM files WHERE " ++ condition

def findFileById (id : Uuid) : Query (Option File) where
  statement := .ok ⟨selectFiles "id = $1", [.uuid id]⟩
  read := readFirst "failed to find file" FileRow.file

def findFileByPath (path : String) : Query (Option File) where
  statement := .ok ⟨selectFiles "path = $1", [.text path]⟩
  read := readFirst "failed to find file by path" FileRow.file

def findFilesOfEntity (entityType entityId : String) : Query (List File) where
  statement := .ok
    ⟨selectFiles "entity_type = $1 AND entity_id = $2 ORDER BY created_at DESC",
      [.text entityType, .text entityId]⟩
  read := readAll "failed to list entity files" FileRow.file

def findCurrentFile (owner : Owner) : Query (Option File) where
  statement := .ok ⟨selectFiles ("entity_type = $1 AND entity_id = $2 AND field = $3 " ++
    "ORDER BY created_at DESC LIMIT 1"),
    [.text owner.entityType, .text owner.entityId, .text owner.field]⟩
  read := readFirst "failed to find file by owner" FileRow.file

def insertFile (file : File) : Query Unit where
  statement := do
    let values ← FileRow.leadingValues file
    return ⟨"INSERT INTO files (" ++ FileRow.columnList ++
      ") VALUES ($1, $2, $3, $4, $5, $6, $7, $8, $9, $10, $11, $12)",
      values ++ [.timestamp file.createdAt, .timestamp file.updatedAt]⟩
  read := fun reply => (readAffected "failed to create file" reply).map fun _ => ()

/-- Overwrites a file; the time of its creation stays. -/
def updateFile (file : File) : Query Unit where
  statement := do
    let values ← FileRow.leadingValues file
    return ⟨"UPDATE files SET entity_type = $2, entity_id = $3, field = $4, filename = $5, " ++
      "path = $6, mime_type = $7, size = $8, width = $9, height = $10, updated_at = $11 " ++
      "WHERE id = $1", values ++ [.timestamp file.updatedAt]⟩
  read := readOverwritten "failed to update file" file.id

def deleteFile (id : Uuid) : Query (Option File) where
  statement := .ok ⟨"DELETE FROM files WHERE id = $1 RETURNING " ++ FileRow.columnList,
    [.uuid id]⟩
  read := readFirst "failed to delete file" FileRow.file

def deleteFilesOfEntity (entityType entityId : String) : Query Nat where
  statement := .ok ⟨"DELETE FROM files WHERE entity_type = $1 AND entity_id = $2",
    [.text entityType, .text entityId]⟩
  read := readAffected "failed to delete entity files"

end Depot.Rows
