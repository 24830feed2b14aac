import FrameLog.Checksum
import FrameLog.Failure

/-!
# Records and their frames

A frame is nine octets of header (tag, payload length, checksum) and then the payload. It
stores whatever checksum the record carries; `Record.Sound` says that it is the right one.
-/

set_option autoImplicit false

namespace FrameLog

/-! ## Kinds of record -/

/-- Frames with any other tag are read and kept all the same. -/
inductive RecordKind where
  | data
  deriving DecidableEq, Repr

def RecordKind.tag : RecordKind → UInt8
  | data => 1

def RecordKind.ofTag? (tag : UInt8) : Option RecordKind :=
  if tag = 1 then some data else none

/-! ## Frame headers -/

structure FrameHeader where
  tag : UInt8
  length : UInt32
  checksum : UInt32
  deriving DecidableEq, Repr

namespace FrameHeader

def size : Nat := 9

def frameSize (header : FrameHeader) : Nat := size + header.length.toNat

def encode (header : FrameHeader) : Bytes :=
  header.tag :: (Bytes.ofWord header.length ++ Bytes.ofWord header.checksum)

/-- Octets behind the header are ignored; fewer than nine hold no header. -/
def decode? : Bytes → Option FrameHeader
  | tag :: length₀ :: length₁ :: length₂ :: length₃ ::
      checksum₀ :: checksum₁ :: checksum₂ :: checksum₃ :: _ =>
      some ⟨tag, Bytes.toWord length₀ length₁ length₂ length₃,
        Bytes.toWord checksum₀ checksum₁ checksum₂ checksum₃⟩
  | _ => none

@[simp] theorem length_encode (header : FrameHeader) : header.encode.length = size := rfl

theorem decode?_encode (header : FrameHeader) (rest : Bytes) :
    decode? (header.encode ++ rest) = some header := by
  simp only [encode, Bytes.ofWord, List.cons_append, List.nil_append, decode?,
    Bytes.toWord_digits]

theorem eq_encode_of_decode? {octets : Bytes} {header : FrameHeader}
    (decoded : decode? octets = some header) :
    octets = header.encode ++ octets.drop size := by
  unfold decode? at decoded
  split at decoded
  · cases decoded
    simp [encode, Bytes.ofWord_toWord, size]
  · cases decoded

theorem decode?_eq_none_iff : ∀ {octets : Bytes}, decode? octets = none ↔ octets.length < size
  | [] | [_] | [_, _] | [_, _, _] | [_, _, _, _] | [_, _, _, _, _] | [_, _, _, _, _, _]
  | [_, _, _, _, _, _, _] | [_, _, _, _, _, _, _, _] => by simp [decode?, size]
  | _ :: _ :: _ :: _ :: _ :: _ :: _ :: _ :: _ :: _ => by simp [decode?, size]

end FrameHeader

/-! ## Records -/

/-- A record with the checksum it was stored with, right or wrong. -/
structure Record where
  tag : UInt8
  payload : Bytes
  checksum : UInt32
  deriving DecidableEq, Repr

namespace Record

def ofPayload (payload : Bytes) : Record :=
  ⟨RecordKind.data.tag, payload, frameChecksum RecordKind.data.tag payload⟩

def Sound (record : Record) : Prop :=
  frameChecksum record.tag record.payload = record.checksum

instance (record : Record) : Decidable record.Sound :=
  inferInstanceAs (Decidable (_ = _))

theorem sound_ofPayload (payload : Bytes) : (ofPayload payload).Sound := rfl

def frameSize (record : Record) : Nat := FrameHeader.size + record.payload.length

def header (record : Record) : FrameHeader :=
  ⟨record.tag, storedLength record.payload, record.checksum⟩

def encode (record : Record) : Bytes := record.header.encode ++ record.payload

@[simp] theorem length_encode (record : Record) : record.encode.length = record.frameSize := by
  simp [encode, frameSize]

/-- A frame held in memory has to end where its payload does. -/
def decode (octets : Bytes) : Except Failure Record :=
  match FrameHeader.decode? octets with
  | none => .error (.corrupted (.shortFrame octets.length))
  | some header =>
      let body := octets.drop FrameHeader.size
      if body.length ≠ header.length.toNat then
        .error (.corrupted (.payloadLength header.length body.length))
      else
        let computed := frameChecksum header.tag body
        if computed ≠ header.checksum then
          .error (.checksumMismatch 0 header.checksum computed)
        else .ok ⟨header.tag, body, header.checksum⟩

end Record

end FrameLog
