/-!
The digest SHA-256: a message of any length gives 32 bytes. The message is filled up to whole blocks
of 64 bytes with a set bit, zeros and its length in bits; every block is mixed into a state of eight
words in 64 rounds.
-/

namespace Depot.Digests.Sha256

structure State where
  a : UInt32
  b : UInt32
  c : UInt32
  d : UInt32
  e : UInt32
  f : UInt32
  g : UInt32
  h : UInt32

def start : State :=
  ⟨0x6a09e667, 0xbb67ae85, 0x3c6ef372, 0xa54ff53a, 0x510e527f, 0x9b05688c, 0x1f83d9ab, 0x5be0cd19⟩

def roundConstants : List UInt32 :=
  [0x428a2f98, 0x71374491, 0xb5c0fbcf, 0xe9b5dba5, 0x3956c25b, 0x59f111f1, 0x923f82a4, 0xab1c5ed5,
    0xd807aa98, 0x12835b01, 0x243185be, 0x550c7dc3, 0x72be5d74, 0x80deb1fe, 0x9bdc06a7, 0xc19bf174,
    0xe49b69c1, 0xefbe4786, 0x0fc19dc6, 0x240ca1cc, 0x2de92c6f, 0x4a7484aa, 0x5cb0a9dc, 0x76f988da,
    0x983e5152, 0xa831c66d, 0xb00327c8, 0xbf597fc7, 0xc6e00bf3, 0xd5a79147, 0x06ca6351, 0x14292967,
    0x27b70a85, 0x2e1b2138, 0x4d2c6dfc, 0x53380d13, 0x650a7354, 0x766a0abb, 0x81c2c92e, 0x92722c85,
    0xa2bfe8a1, 0xa81a664b, 0xc24b8b70, 0xc76c51a3, 0xd192e819, 0xd6990624, 0xf40e3585, 0x106aa070,
    0x19a4c116, 0x1e376c08, 0x2748774c, 0x34b0bcb5, 0x391c0cb3, 0x4ed8aa4a, 0x5b9cca4f, 0x682e6ff3,
    0x748f82ee, 0x78a5636f, 0x84c87814, 0x8cc70208, 0x90befffa, 0xa4506ceb, 0xbef9a3f7, 0xc67178f2]

def rotate (w count : UInt32) : UInt32 := (w >>> count) ||| (w <<< (32 - count))

def round (s : State) (constant word : UInt32) : State :=
  let sum1 := rotate s.e 6 ^^^ rotate s.e 11 ^^^ rotate s.e 25
  let choice := (s.e &&& s.f) ^^^ (~~~ s.e &&& s.g)
  let first := s.h + sum1 + choice + constant + word
  let sum0 := rotate s.a 2 ^^^ rotate s.a 13 ^^^ rotate s.a 22
  let majority := (s.a &&& s.b) ^^^ (s.a &&& s.c) ^^^ (s.b &&& s.c)
  ⟨first + (sum0 + majority), s.a, s.b, s.c, s.d + first, s.e, s.f, s.g⟩

/-- The words behind the first 16: each is made of four of the 16 before it. `window` holds those,
the oldest first. -/
def expand : Nat → List UInt32 → List UInt32
  | 0, _ => []
  | count + 1, window =>
    let old := window.getD 1 0
    let late := window.getD 14 0
    let sum0 := rotate old 7 ^^^ rotate old 18 ^^^ (old >>> 3)
    let sum1 := rotate late 17 ^^^ rotate late 19 ^^^ (late >>> 10)
    let word := window.getD 0 0 + sum0 + window.getD 9 0 + sum1
    word :: expand count (window.drop 1 ++ [word])

def compress (s : State) (block : List UInt32) : State :=
  let mixed := ((roundConstants.zip (block ++ expand 48 block)).foldl
    (fun s (constant, word) => round s constant word) s)
  ⟨s.a + mixed.a, s.b + mixed.b, s.c + mixed.c, s.d + mixed.d, s.e + mixed.e, s.f + mixed.f,
    s.g + mixed.g, s.h + mixed.h⟩

def bigEndian : Nat → Nat → List UInt8
  | 0, _ => []
  | count + 1, n => bigEndian count (n / 256) ++ [UInt8.ofNat n]

def filling (length : Nat) : List UInt8 :=
  0x80 :: List.replicate ((119 - length % 64) % 64) 0 ++ bigEndian 8 (8 * length)

def words : List UInt8 → List UInt32
  | a :: b :: c :: d :: rest =>
    (((a.toUInt32 <<< 24) ||| (b.toUInt32 <<< 16)) ||| ((c.toUInt32 <<< 8) ||| d.toUInt32))
      :: words rest
  | _ => []

def absorb (s : State) (ws : List UInt32) : State :=
  if _short : ws.length < 16 then s
  else absorb (compress s (ws.take 16)) (ws.drop 16)
termination_by ws.length
decreasing_by simp only [List.length_drop]; omega

def State.bytes (s : State) : List UInt8 :=
  [s.a, s.b, s.c, s.d, s.e, s.f, s.g, s.h].flatMap fun w => bigEndian 4 w.toNat

def digest (message : List UInt8) : List UInt8 :=
  (absorb start (words (message ++ filling message.length))).bytes

end Depot.Digests.Sha256
