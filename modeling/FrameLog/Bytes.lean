/-!
# Byte strings

Words are stored most significant octet first. Writing past the end (`overlay`) and growing
(`resize`) fill the gap with zeros, so contents never have holes.
-/

set_option autoImplicit false

namespace FrameLog

abbrev Bytes := List UInt8

namespace Bytes

/-! ## Words -/

def ofWord (word : UInt32) : Bytes :=
  [.ofNat (word.toNat / 16777216), .ofNat (word.toNat / 65536),
    .ofNat (word.toNat / 256), .ofNat word.toNat]

def toWord (first second third fourth : UInt8) : UInt32 :=
  .ofNat (first.toNat * 16777216 + second.toNat * 65536 + third.toNat * 256 + fourth.toNat)

@[simp] theorem length_ofWord (word : UInt32) : (ofWord word).length = 4 := rfl

theorem toWord_digits (word : UInt32) :
    toWord (.ofNat (word.toNat / 16777216)) (.ofNat (word.toNat / 65536))
      (.ofNat (word.toNat / 256)) (.ofNat word.toNat) = word := by
  have bound := word.toNat_lt
  apply UInt32.toNat_inj.mp
  simp only [toWord, UInt32.toNat_ofNat', UInt8.toNat_ofNat']
  omega

theorem ofWord_toWord (first second third fourth : UInt8) :
    ofWord (toWord first second third fourth) = [first, second, third, fourth] := by
  have firstBound := first.toNat_lt
  have secondBound := second.toNat_lt
  have thirdBound := third.toNat_lt
  have fourthBound := fourth.toNat_lt
  simp only [ofWord, toWord, UInt32.toNat_ofNat', List.cons.injEq, ← UInt8.toNat_inj,
    UInt8.toNat_ofNat', and_true]
  omega

/-! ## Reading and changing contents -/

def window (contents : Bytes) (offset count : Nat) : Bytes :=
  (contents.drop offset).take count

def resize (contents : Bytes) (length : Nat) : Bytes :=
  (contents.take length).rightpad length 0

/-- Writing nothing changes nothing, also past the end. -/
def overlay (contents : Bytes) (offset : Nat) (written : Bytes) : Bytes :=
  if written.isEmpty then contents
  else contents.resize offset ++ written ++ contents.drop (offset + written.length)

def flip? (contents : Bytes) (offset : Nat) (mask : UInt8) : Option Bytes :=
  contents[offset]?.map fun octet => contents.set offset (octet ^^^ mask)

theorem length_window (contents : Bytes) (offset count : Nat) :
    (contents.window offset count).length = min count (contents.length - offset) := by
  simp [window]

@[simp] theorem length_resize (contents : Bytes) (length : Nat) :
    (contents.resize length).length = length := by
  simp only [resize, List.rightpad, List.length_append, List.length_take, List.length_replicate]
  omega

end Bytes

end FrameLog
