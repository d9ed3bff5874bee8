import Depot.Digests.Sha256
import Depot.Instant
import Depot.Text.Hex

/-!
Addresses of stored contents. A public address is a base and the path. A signed one also carries the
second at which it expires and a digest of a secret, the path and that second; whoever does not know
the secret cannot make one.
-/

namespace Depot.Blobs

structure AddressBook where
  base : String
  secret : String
deriving Repr

def trimSlashes (s : String) : String :=
  String.ofList (s.toList.reverse.dropWhile (· = '/')).reverse

/-- Whether bytes are the expected ones. All of them are looked at, wherever the first one is that
differs. -/
def sameBytes (expected given : List UInt8) : Bool :=
  expected.length == given.length &&
    (expected.zip given).foldl (fun differing pair => differing ||| (pair.1 ^^^ pair.2)) 0 == 0

namespace AddressBook

def make (base secret : String) : AddressBook := ⟨trimSlashes base, secret⟩

def publicUrl (book : AddressBook) (path : String) : String := book.base ++ "/" ++ path

def signedText (book : AddressBook) (path : String) (expires : Int) : String :=
  book.secret ++ ":" ++ path ++ ":" ++ Text.decimalInt expires

def signature (book : AddressBook) (path : String) (expires : Int) : String :=
  String.ofList
    ((Digests.Sha256.digest (book.signedText path expires).toUTF8.toList).flatMap Text.hexPair)

def expiry (now : Instant) (minutes : Nat) : Int := (now.addMinutes minutes).seconds

def signedUrl (book : AddressBook) (now : Instant) (path : String) (minutes : Nat) : String :=
  book.publicUrl path ++ "?expires=" ++ Text.decimalInt (expiry now minutes) ++ "&signature=" ++
    book.signature path (expiry now minutes)

/-- Whether a signature is the one of a path and a second that has not passed. -/
def verifies (book : AddressBook) (now : Instant) (path : String) (expires : Int)
    (given : String) : Bool :=
  now.seconds ≤ expires &&
    sameBytes (book.signature path expires).toUTF8.toList given.toUTF8.toList

def briefUrl (book : AddressBook) (path : String) (minutes : Nat) : String :=
  book.publicUrl path ++ "?expires_in=" ++ Text.decimal minutes ++ "m"

end AddressBook

end Depot.Blobs
