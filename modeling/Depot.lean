import Depot.Accounts.Access
import Depot.Accounts.Change
import Depot.Accounts.Deletion
import Depot.Accounts.Event
import Depot.Accounts.Form
import Depot.Accounts.Listing
import Depot.Accounts.PasswordHash
import Depot.Accounts.Registration
import Depot.Accounts.Role
import Depot.Accounts.UniqueName
import Depot.Accounts.User
import Depot.Accounts.Username
import Depot.Accounts.Users
import Depot.BackendFailure
import Depot.Blobs.Address
import Depot.Blobs.Disk
import Depot.Blobs.Memory
import Depot.Blobs.Store
import Depot.Bytes.Scan
import Depot.Codes.Bits
import Depot.Codes.Canonical
import Depot.Codes.Crc
import Depot.Codes.Inflate
import Depot.Digests.Argon2
import Depot.Digests.Blake2b
import Depot.Digests.Sha256
import Depot.Dispatcher
import Depot.Draws
import Depot.Event
import Depot.Failure
import Depot.Files.Access
import Depot.Files.Catalogue
import Depot.Files.Constraints
import Depot.Files.Event
import Depot.Files.Failure
import Depot.Files.File
import Depot.Files.Form
import Depot.Files.Links
import Depot.Files.Metadata
import Depot.Files.Owner
import Depot.Files.Path
import Depot.Files.Removal
import Depot.Files.Settings
import Depot.Files.Upload
import Depot.Handler
import Depot.Instant
import Depot.Json.Access
import Depot.Json.Reader
import Depot.Json.Value
import Depot.Number.Double
import Depot.Number.Power
import Depot.Pictures.Anymap
import Depot.Pictures.Bmp
import Depot.Pictures.Dds
import Depot.Pictures.Drawing
import Depot.Pictures.Farbfeld
import Depot.Pictures.Gif
import Depot.Pictures.Icon
import Depot.Pictures.Jpeg
import Depot.Pictures.Jpeg.Blocks
import Depot.Pictures.Jpeg.Frame
import Depot.Pictures.Kind
import Depot.Pictures.Plan
import Depot.Pictures.Png
import Depot.Pictures.Qoi
import Depot.Pictures.Radiance
import Depot.Pictures.Raster
import Depot.Pictures.Reading
import Depot.Pictures.Resample
import Depot.Pictures.Sides
import Depot.Pictures.Tiff
import Depot.Pictures.Transform
import Depot.Pictures.Webp
import Depot.Pictures.Webp.Lossless
import Depot.Proofs.Accounts.Deletion
import Depot.Proofs.Accounts.Effects
import Depot.Proofs.Accounts.Endings
import Depot.Proofs.Accounts.Keys
import Depot.Proofs.Accounts.Moves
import Depot.Proofs.Accounts.Pages
import Depot.Proofs.Accounts.Provisioning
import Depot.Proofs.Accounts.Returned
import Depot.Proofs.Accounts.Revision
import Depot.Proofs.Accounts.Slug
import Depot.Proofs.Accounts.Sticky
import Depot.Proofs.Accounts.UseCases
import Depot.Proofs.Accounts.Usernames
import Depot.Proofs.Accounts.WellFormed
import Depot.Proofs.Accounts.Words
import Depot.Proofs.Accounts.Writes
import Depot.Proofs.Act
import Depot.Proofs.Blobs.Confinement
import Depot.Proofs.Blobs.Growth
import Depot.Proofs.Blobs.Refinement
import Depot.Proofs.Blobs.Signing
import Depot.Proofs.Blobs.Storing
import Depot.Proofs.Blobs.Tree
import Depot.Proofs.Calls
import Depot.Proofs.Cascade
import Depot.Proofs.Correspondence
import Depot.Proofs.Events.Conservation
import Depot.Proofs.Events.Delivery
import Depot.Proofs.Events.Logs
import Depot.Proofs.Events.Tellings
import Depot.Proofs.Events.Waiting
import Depot.Proofs.Files.Acceptance
import Depot.Proofs.Files.Catalogue
import Depot.Proofs.Files.Clearance
import Depot.Proofs.Files.Compliance
import Depot.Proofs.Files.Current
import Depot.Proofs.Files.Emptying
import Depot.Proofs.Files.Exchange
import Depot.Proofs.Files.Filing
import Depot.Proofs.Files.Intake
import Depot.Proofs.Files.Limits
import Depot.Proofs.Files.Moves
import Depot.Proofs.Files.Newest
import Depot.Proofs.Files.OnDisk
import Depot.Proofs.Files.PathGrammar
import Depot.Proofs.Files.PathText
import Depot.Proofs.Files.Refusal
import Depot.Proofs.Files.Retry
import Depot.Proofs.Files.Strategies
import Depot.Proofs.Files.Swap
import Depot.Proofs.Files.Turn
import Depot.Proofs.Files.Unfit
import Depot.Proofs.Files.Writes
import Depot.Proofs.Holdings
import Depot.Proofs.Json.Forms
import Depot.Proofs.Json.Records
import Depot.Proofs.Lookup
import Depot.Proofs.Number.Rounding
import Depot.Proofs.Passwords.Accounts
import Depot.Proofs.Passwords.Files
import Depot.Proofs.Passwords.Hashes
import Depot.Proofs.Passwords.Service
import Depot.Proofs.Passwords.Unseen
import Depot.Proofs.Passwords.Veil
import Depot.Proofs.Pictures.Fitting
import Depot.Proofs.Pictures.Framing
import Depot.Proofs.Pictures.Scaling
import Depot.Proofs.Rows.Files
import Depot.Proofs.Rows.Statements
import Depot.Proofs.Rows.Users
import Depot.Proofs.Runs
import Depot.Proofs.Service.Addresses
import Depot.Proofs.Service.Config
import Depot.Proofs.Service.Effects
import Depot.Proofs.Service.Escapes
import Depot.Proofs.Service.Following
import Depot.Proofs.Service.Idle
import Depot.Proofs.Service.Moves
import Depot.Proofs.Service.News
import Depot.Proofs.Service.Serving
import Depot.Proofs.Service.Telling
import Depot.Proofs.Service.Wishes
import Depot.Proofs.Text.Decimal
import Depot.Proofs.Text.Encoded
import Depot.Proofs.Text.Literals
import Depot.Proofs.Text.Pieces
import Depot.Proofs.Text.Trimming
import Depot.Rows.Files
import Depot.Rows.Users
import Depot.Rows.Value
import Depot.Service.App
import Depot.Service.Config
import Depot.Service.Reply
import Depot.Service.Request
import Depot.Service.Resource
import Depot.Service.Target
import Depot.State
import Depot.Text.Base64
import Depot.Text.Blank
import Depot.Text.Hex
import Depot.Text.Literal
import Depot.Text.Lowercase
import Depot.Text.Pieces
import Depot.Text.Utf8
import Depot.Trace
import Depot.Uuid
