/-!
The checksum of 32 bits in which errors of a content show: the remainder of the content, read as a
polynomial over two elements, with the lowest bit of every byte first.
-/

namespace Depot.Codes.Crc

def shift : Nat → UInt32 → UInt32
  | 0, r => r
  | count + 1, r =>
    shift count (if r &&& 1 = 1 then (r >>> 1) ^^^ 0xedb88320 else r >>> 1)

def table : Array UInt32 := Array.ofFn (n := 256) fun i => shift 8 (UInt32.ofNat i)

def step (r : UInt32) (b : UInt8) : UInt32 :=
  table.getD ((r ^^^ b.toUInt32) &&& 0xff).toNat 0 ^^^ (r >>> 8)

def checksum (bytes : ByteArray) : UInt32 := bytes.foldl step 0xffffffff ^^^ 0xffffffff

end Depot.Codes.Crc
