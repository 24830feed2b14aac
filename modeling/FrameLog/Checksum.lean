import FrameLog.Bytes

/-!
# Frame checksums

The reflected 32-bit cyclic redundancy check, one bit at a time. The checksum of a frame
covers the tag, the stored length and the payload.
-/

set_option autoImplicit false

namespace FrameLog

namespace Checksum

def polynomial : UInt32 := 0xEDB88320

def shift (remainder : UInt32) : UInt32 :=
  if remainder &&& 1 = 1 then (remainder >>> 1) ^^^ polynomial else remainder >>> 1

def shifts : Nat → UInt32 → UInt32
  | 0, remainder => remainder
  | count + 1, remainder => shifts count (shift remainder)

def absorb (remainder : UInt32) (octet : UInt8) : UInt32 :=
  shifts 8 (remainder ^^^ octet.toUInt32)

def crc32 (octets : Bytes) : UInt32 :=
  octets.foldl absorb 0xFFFFFFFF ^^^ 0xFFFFFFFF

end Checksum

/-- Modulo 2^32, as the field of a frame header wraps. -/
def storedLength (payload : Bytes) : UInt32 :=
  .ofNat payload.length

def frameChecksum (tag : UInt8) (payload : Bytes) : UInt32 :=
  Checksum.crc32 (tag :: (Bytes.ofWord (storedLength payload) ++ payload))

/-- The check value of this polynomial: the digits one to nine. -/
example : Checksum.crc32 [49, 50, 51, 52, 53, 54, 55, 56, 57] = 0xCBF43926 := by
  decide +kernel

end FrameLog
