import FrameLog.Record
import FrameLog.Transfer

/-!
# Reading one frame

A frame is read in two steps, so that a hostile length is refused before anything is read
for it. Whatever is wrong with the octets is a `Fault`, never a failure of the read, and
each caller decides what a fault means to it.

Main statement: octets begin with a frame that reads as `record` exactly when they begin
with the encoding of `record`, and `record` is sound and within the limit.
-/

set_option autoImplicit false

namespace FrameLog

/-- Why no sound frame starts where one was looked for. -/
inductive Fault where
  | absent
  | partialHeader (available : Nat)
  | oversized (declared : UInt32)
  | torn (declared : UInt32) (available : Nat)
  | mismatch (stored computed : UInt32)
  deriving DecidableEq, Repr

def Fault.failure (offset : Nat) : Fault → Failure
  | absent => .corrupted (.noFrame offset)
  | partialHeader available => .corrupted (.partialFrameHeader offset available)
  | oversized declared => .corrupted (.oversizedFrame offset declared)
  | torn declared available => .corrupted (.tornFrame offset declared available)
  | mismatch stored computed => .checksumMismatch offset stored computed

def Fault.isMismatch : Fault → Bool
  | mismatch .. => true
  | _ => false

/-- The frame at the start of the octets. Nothing behind it is looked at. -/
def readFrame (limit : UInt32) (octets : Bytes) : Except Fault Record :=
  let head := Transfer.readFull [] octets 0 FrameHeader.size
  if head.isEmpty then .error .absent
  else match FrameHeader.decode? head with
    | none => .error (.partialHeader head.length)
    | some header =>
        if limit < header.length then .error (.oversized header.length)
        else
          let payload := Transfer.readFull [] octets FrameHeader.size header.length.toNat
          if payload.length < header.length.toNat then
            .error (.torn header.length payload.length)
          else
            let computed := frameChecksum header.tag payload
            if computed ≠ header.checksum then
              .error (.mismatch header.checksum computed)
            else .ok ⟨header.tag, payload, header.checksum⟩

def readFrameAt (limit : UInt32) (file : Bytes) (offset : Nat) : Except Fault Record :=
  readFrame limit (file.drop offset)

/-! ## What a sound frame is -/

theorem storedLength_toNat {payload : Bytes} {limit : UInt32}
    (within : payload.length ≤ limit.toNat) : (storedLength payload).toNat = payload.length := by
  have bound := limit.toNat_lt
  simp only [storedLength, UInt32.toNat_ofNat']
  omega

/-- Reading accepts exactly the encodings of sound records within the limit, whatever
octets follow them. -/
theorem readFrame_eq_ok_iff {limit : UInt32} {octets : Bytes} {record : Record} :
    readFrame limit octets = .ok record ↔
      record.payload.length ≤ limit.toNat ∧ record.Sound ∧
        ∃ rest, octets = record.encode ++ rest := by
  constructor
  · intro read
    cases decoded : FrameHeader.decode? (octets.window 0 FrameHeader.size) with
    | none =>
        by_cases empty : (octets.window 0 FrameHeader.size).isEmpty <;>
          simp [readFrame, decoded, empty] at read
    | some header =>
        have lengthIs := Bytes.length_window octets FrameHeader.size header.length.toNat
        simp only [readFrame, Transfer.readFull_nil, decoded] at read
        by_cases empty : (octets.window 0 FrameHeader.size).isEmpty
        · simp [empty] at read
        · by_cases oversized : limit < header.length
          · simp [empty, oversized] at read
          · by_cases torn : (octets.window FrameHeader.size header.length.toNat).length <
                header.length.toNat
            · simp [empty, oversized, torn] at read
            · by_cases mismatch : frameChecksum header.tag
                  (octets.window FrameHeader.size header.length.toNat) = header.checksum
              · simp [empty, oversized, torn, mismatch] at read
                subst read
                have complete : (octets.window FrameHeader.size header.length.toNat).length =
                    header.length.toNat := by omega
                refine ⟨?_, mismatch, octets.drop (FrameHeader.size + header.length.toNat), ?_⟩
                · simpa only [complete, UInt32.le_iff_toNat_le] using UInt32.not_lt.mp oversized
                · have headIs := FrameHeader.eq_encode_of_decode? decoded
                  have stored : storedLength (octets.window FrameHeader.size
                      header.length.toNat) = header.length := by
                    simp only [storedLength, complete, UInt32.ofNat_toNat]
                  have headEnds :
                      (octets.window 0 FrameHeader.size).drop FrameHeader.size = [] := by
                    simp [Bytes.window]
                  rw [headEnds, List.append_nil] at headIs
                  simp only [Record.encode, Record.header, stored, ← headIs]
                  simp [Bytes.window, ← List.drop_drop]
              · simp [empty, oversized, torn, mismatch] at read
  · rintro ⟨within, sound, rest, rfl⟩
    have length := storedLength_toNat within
    have headIs : (record.encode ++ rest).window 0 FrameHeader.size = record.header.encode := by
      rw [Record.encode, List.append_assoc, Bytes.window, List.drop_zero]
      exact List.take_left' (FrameHeader.length_encode record.header)
    have payloadIs : (record.encode ++ rest).window FrameHeader.size record.payload.length =
        record.payload := by
      rw [Record.encode, List.append_assoc, Bytes.window,
        List.drop_left' (FrameHeader.length_encode record.header), List.take_left]
    have decoded := FrameHeader.decode?_encode record.header []
    rw [List.append_nil] at decoded
    have nonempty : record.header.encode.isEmpty = false := rfl
    have allowed : ¬ limit < record.header.length := by
      simpa [Record.header, UInt32.lt_iff_toNat_lt, length] using within
    have soundly : frameChecksum record.header.tag record.payload = record.header.checksum := sound
    simp [readFrame, headIs, decoded, nonempty, allowed, soundly,
      show record.header.length.toNat = record.payload.length from length, payloadIs]
    rfl

end FrameLog
