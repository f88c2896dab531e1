/-!
# Checksums

A cyclic redundancy check of 32 bits guards every chunk of a PNG file, and a pair of running sums
guards the compressed data.
-/

namespace Lookout.Checksum

/-- One step of the division behind the cyclic check: `count` bits. -/
def crcBits : Nat → UInt32 → UInt32
  | 0, c => c
  | count + 1, c => crcBits count (if c &&& 1 = 1 then (c >>> 1) ^^^ 0xEDB88320 else c >>> 1)

/-- The remainders of all octets. -/
def crcTable : Array UInt32 := Array.ofFn fun i : Fin 256 => crcBits 8 i.val.toUInt32

/-- The running check after one more octet. -/
def crcStep (c : UInt32) (octet : UInt8) : UInt32 :=
  crcTable[((c ^^^ octet.toUInt32) &&& 0xFF).toNat]?.getD 0 ^^^ (c >>> 8)

/-- The cyclic check of some octets. -/
def crc32 (octets : ByteArray) : UInt32 := octets.foldl crcStep 0xFFFFFFFF ^^^ 0xFFFFFFFF

/-- The running sums after one more octet. -/
def adlerStep (sums : UInt32 × UInt32) (octet : UInt8) : UInt32 × UInt32 :=
  let low := (sums.1 + octet.toUInt32) % 65521
  (low, (sums.2 + low) % 65521)

/-- The pair of sums of some octets. -/
def adler32 (octets : ByteArray) : UInt32 :=
  let (low, high) := octets.foldl adlerStep (1, 0)
  (high <<< 16) ||| low

end Lookout.Checksum
