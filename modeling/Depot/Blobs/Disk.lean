import Depot.BackendFailure
import Depot.Text.Pieces

/-!
Contents kept as files below a root directory. A path is accepted if it is plain: not empty,
relative, and without steps up or a leading step in place. What happens to an accepted path is what
a file system makes of the joined text: empty segments and steps in place are passed over on the
way, a slash at the end asks for a directory, and names and texts have a largest length.

Every operation gives its result together with the disk it leaves behind, since directories that
were made on the way stay even where the operation fails.
-/

namespace Depot.Blobs

inductive Node
  | directory
  | file (bytes : ByteArray)

inductive DiskFault
  | noEntry
  | alreadyThere
  | notDirectory
  | isDirectory
  | nameTooLong
  | zeroByte
  | notRegular
deriving DecidableEq, Repr

namespace DiskFault

def message : DiskFault → String
  | noEntry => "No such file or directory (os error 2)"
  | alreadyThere => "File exists (os error 17)"
  | notDirectory => "Not a directory (os error 20)"
  | isDirectory => "Is a directory (os error 21)"
  | nameTooLong => "File name too long (os error 36)"
  | zeroByte => "file name contained an unexpected NUL byte"
  | notRegular => "the source path is neither a regular file nor a symlink to a regular file"

def failure (fault : DiskFault) : BackendFailure := .io fault.message

end DiskFault

/-- Whether a path is accepted: each step of it leads down. -/
def isPlain (path : String) : Bool :=
  let steps := Text.segments path
  !path.isEmpty && steps.head? != some "" && steps.head? != some "." && !steps.contains ".."

def isIdle (step : String) : Bool := step.isEmpty || step == "."

def names (path : String) : List String := (Text.segments path).filter (!isIdle ·)

def trimIdle (steps : List String) : List String := (steps.reverse.dropWhile isIdle).reverse

def above (steps : List String) : List String := trimIdle (trimIdle steps).dropLast

/-- The tree of files and directories: what lies at each place, a place being given by the names
that lead to it. The root is always there. -/
structure Disk where
  entries : List (List String × Node) := []
  /-- The number of bytes of the root's own path. -/
  rootLength : Nat := 15

namespace Disk

def node? (disk : Disk) : List String → Option Node
  | [] => some .directory
  | place => disk.entries.lookup place

def setEntry (place : List String) (node : Node) :
    List (List String × Node) → List (List String × Node)
  | [] => [(place, node)]
  | entry :: rest =>
    if entry.1 = place then (place, node) :: rest else entry :: setEntry place node rest

def set (disk : Disk) (place : List String) (node : Node) : Disk :=
  { disk with entries := setEntry place node disk.entries }

def clear (disk : Disk) (place : List String) : Disk :=
  { disk with entries := disk.entries.filter (·.1 ≠ place) }

def maxName : Nat := 255

def pathLimit : Nat := 4096

/-- The fault of a text that is refused before any name is looked up. -/
def checkText (disk : Disk) (steps : List String) : Except DiskFault Unit :=
  if steps.any (·.toList.contains (Char.ofNat 0)) then .error .zeroByte
  else
    let size := steps.foldl (fun size step => size + 1 + step.utf8ByteSize) disk.rootLength
    if pathLimit ≤ size then .error .nameTooLong else .ok ()

def look (disk : Disk) (place : List String) (name : String) : Except DiskFault Node :=
  if maxName < name.utf8ByteSize then .error .nameTooLong
  else
    match disk.node? (place ++ [name]) with
    | some node => .ok node
    | none => .error .noEntry

def walk (disk : Disk) : List String → List String → Except DiskFault (List String)
  | place, [] => .ok place
  | place, step :: rest =>
    if isIdle step then walk disk place rest
    else
      match disk.look place step with
      | .error fault => .error fault
      | .ok (.file _) => .error .notDirectory
      | .ok .directory => walk disk (place ++ [step]) rest

/-- A path taken apart: the steps before the last one that is not empty, that step, and whether a
slash follows it. -/
structure Route where
  before : List String
  last : String
  closed : Bool

def route (steps : List String) : Route :=
  let rest := steps.reverse.dropWhile String.isEmpty
  match rest with
  | [] => ⟨[], ".", true⟩
  | last :: before => ⟨before.reverse, last, steps.getLast? = some ""⟩

def find (disk : Disk) (steps : List String) : Except DiskFault Node := do
  disk.checkText steps
  let route := route steps
  let place ← disk.walk [] route.before
  if isIdle route.last then return .directory
  match ← disk.look place route.last with
  | .file bytes => if route.closed then .error .notDirectory else return .file bytes
  | .directory => return .directory

def placeToWrite (disk : Disk) (steps : List String) : Except DiskFault (List String) := do
  disk.checkText steps
  let route := route steps
  let place ← disk.walk [] route.before
  if isIdle route.last || route.closed then .error .isDirectory
  else
    match disk.look place route.last with
    | .ok .directory => .error .isDirectory
    | .ok (.file _) => return place ++ [route.last]
    | .error .noEntry => return place ++ [route.last]
    | .error fault => .error fault

def placeToRemove (disk : Disk) (steps : List String) : Except DiskFault (List String) := do
  disk.checkText steps
  let route := route steps
  let place ← disk.walk [] route.before
  if isIdle route.last then .error .isDirectory
  else
    match ← disk.look place route.last with
    | .directory => .error .isDirectory
    | .file _ => if route.closed then .error .notDirectory else return place ++ [route.last]

def makeDirectory (disk : Disk) (steps : List String) : Except DiskFault Disk := do
  disk.checkText steps
  let route := route steps
  let place ← disk.walk [] route.before
  if isIdle route.last then .error .alreadyThere
  else
    match disk.look place route.last with
    | .ok _ => .error .alreadyThere
    | .error .noEntry => return disk.set (place ++ [route.last]) .directory
    | .error fault => .error fault

def leadsToDirectory (disk : Disk) (steps : List String) : Bool :=
  match disk.find steps with
  | .ok .directory => true
  | _ => false

/-- The outcome of making a directory that may be there already. -/
def settle (disk : Disk) (steps : List String) :
    Except DiskFault Disk → Except DiskFault Unit × Disk
  | .ok made => (.ok (), made)
  | .error fault => if disk.leadsToDirectory steps then (.ok (), disk) else (.error fault, disk)

theorem length_trimIdle_le (steps : List String) : (trimIdle steps).length ≤ steps.length := by
  have := (List.dropWhile_suffix isIdle (l := steps.reverse)).length_le
  simpa [trimIdle] using this

theorem length_above_lt {steps : List String} (h : above steps ≠ []) :
    (above steps).length < steps.length := by
  have outer := length_trimIdle_le (trimIdle steps).dropLast
  have inner := length_trimIdle_le steps
  have positive : 0 < (above steps).length := List.length_pos_iff.2 h
  simp only [above, List.length_dropLast] at *
  omega

def makeDirectories (disk : Disk) (steps : List String) : Except DiskFault Unit × Disk :=
  match disk.makeDirectory steps with
  | .error .noEntry =>
    if _more : above steps ≠ [] then
      match makeDirectories disk (above steps) with
      | (.error fault, disk) => (.error fault, disk)
      | (.ok (), disk) => settle disk steps (disk.makeDirectory steps)
    else (.error .noEntry, disk)
  | outcome => settle disk steps outcome
termination_by steps.length
decreasing_by exact length_above_lt _more

def makeParents (disk : Disk) (path : String) : Except DiskFault Unit × Disk :=
  match above (Text.segments path) with
  | [] => (.ok (), disk)
  | steps => disk.makeDirectories steps

def readFile (disk : Disk) (path : String) : Except DiskFault ByteArray :=
  match disk.find (Text.segments path) with
  | .error fault => .error fault
  | .ok .directory => .error .isDirectory
  | .ok (.file bytes) => .ok bytes

def writeFile (disk : Disk) (path : String) (bytes : ByteArray) : Except DiskFault Unit × Disk :=
  match disk.placeToWrite (Text.segments path) with
  | .error fault => (.error fault, disk)
  | .ok place => (.ok (), disk.set place (.file bytes))

def sourceBytes (disk : Disk) (path : String) : Except DiskFault ByteArray :=
  match disk.find (Text.segments path) with
  | .error fault => .error fault
  | .ok .directory => .error .notRegular
  | .ok (.file bytes) => .ok bytes

/-- Copies a file. The target is emptied before the source is read, so that a file copied onto
itself ends up empty. -/
def copyFile (disk : Disk) (source target : String) : Except DiskFault Unit × Disk :=
  match disk.sourceBytes source with
  | .error fault => (.error fault, disk)
  | .ok _ =>
    match disk.writeFile target ByteArray.empty with
    | (.error fault, disk) => (.error fault, disk)
    | (.ok (), emptied) =>
      match emptied.sourceBytes source with
      | .error fault => (.error fault, emptied)
      | .ok bytes => emptied.writeFile target bytes

def refusal (path : String) : BackendFailure := .refused ("invalid blob path: " ++ path)

def report : Except DiskFault Unit × Disk → Except BackendFailure Unit × Disk
  | (.ok (), disk) => (.ok (), disk)
  | (.error fault, disk) => (.error fault.failure, disk)

def upload (disk : Disk) (path : String) (bytes : ByteArray) :
    Except BackendFailure Unit × Disk :=
  if isPlain path then
    match disk.makeParents path with
    | (.error fault, disk) => (.error fault.failure, disk)
    | (.ok (), disk) => report (disk.writeFile path bytes)
  else (.error (refusal path), disk)

def delete (disk : Disk) (path : String) : Except BackendFailure Unit × Disk :=
  if isPlain path then
    match disk.placeToRemove (Text.segments path) with
    | .ok place => (.ok (), disk.clear place)
    | .error .noEntry => (.ok (), disk)
    | .error fault => (.error fault.failure, disk)
  else (.error (refusal path), disk)

def contains (disk : Disk) (path : String) : Except BackendFailure Bool :=
  if isPlain path then
    match disk.find (Text.segments path) with
    | .ok _ => .ok true
    | .error .noEntry => .ok false
    | .error fault => .error fault.failure
  else .error (refusal path)

def read (disk : Disk) (path : String) : Except BackendFailure (Option ByteArray) :=
  if isPlain path then
    match disk.readFile path with
    | .ok bytes => .ok (some bytes)
    | .error .noEntry => .ok none
    | .error fault => .error fault.failure
  else .error (refusal path)

def copy (disk : Disk) (source target : String) : Except BackendFailure Unit × Disk :=
  if !isPlain source then (.error (refusal source), disk)
  else if !isPlain target then (.error (refusal target), disk)
  else
    match disk.makeParents target with
    | (.error fault, disk) => (.error fault.failure, disk)
    | (.ok (), disk) => report (disk.copyFile source target)

end Disk

end Depot.Blobs
