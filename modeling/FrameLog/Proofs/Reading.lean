import FrameLog.Frame
import FrameLog.Scan

/-!
# What stands where a frame is read

Octets can stand in six ways where a frame is looked for, and reading tells them apart:
nothing, too little for a header, a header whose length is over the limit, a header with
less payload behind it than it declares, and a whole frame, whose checksum is right or
wrong. `Reading` lists the six ways without saying in which order they are checked.

Main statement: reading gives an outcome exactly when the octets stand in its way. From
it, a proper leading part of a frame is never taken for a frame, and never for a frame
with a wrong checksum.
-/

set_option autoImplicit false

namespace FrameLog

inductive Reading (limit : UInt32) : Bytes → Except Fault Record → Prop where
  | absent : Reading limit [] (.error .absent)
  | partialHeader {octets : Bytes} :
      octets ≠ [] → octets.length < FrameHeader.size →
      Reading limit octets (.error (.partialHeader octets.length))
  | oversized {header : FrameHeader} {behind : Bytes} :
      limit < header.length →
      Reading limit (header.encode ++ behind) (.error (.oversized header.length))
  | torn {header : FrameHeader} {behind : Bytes} :
      header.length ≤ limit → behind.length < header.length.toNat →
      Reading limit (header.encode ++ behind) (.error (.torn header.length behind.length))
  | mismatch {record : Record} {rest : Bytes} :
      record.payload.length ≤ limit.toNat → ¬ record.Sound →
      Reading limit (record.encode ++ rest)
        (.error (.mismatch record.checksum (frameChecksum record.tag record.payload)))
  | sound {record : Record} {rest : Bytes} :
      record.Acceptable limit → Reading limit (record.encode ++ rest) (.ok record)

/-! ## Reading by the length of what is there -/

private theorem readFrame_nil (limit : UInt32) : readFrame limit [] = .error .absent := rfl

theorem readFrame_short {limit : UInt32} {octets : Bytes} (nonempty : octets ≠ [])
    (short : octets.length < FrameHeader.size) :
    readFrame limit octets = .error (.partialHeader octets.length) := by
  have head : octets.window 0 FrameHeader.size = octets := by
    rw [Bytes.window, List.drop_zero, List.take_of_length_le (by omega)]
  have occupied : octets.isEmpty = false := by simpa using nonempty
  simp [readFrame, head, occupied, FrameHeader.decode?_eq_none_iff.mpr short]

private theorem window_header (header : FrameHeader) (behind : Bytes) :
    (header.encode ++ behind).window 0 FrameHeader.size = header.encode := by
  rw [Bytes.window, List.drop_zero]
  exact List.take_left' (FrameHeader.length_encode header)

private theorem window_payload (header : FrameHeader) (behind : Bytes) (count : Nat) :
    (header.encode ++ behind).window FrameHeader.size count = behind.take count := by
  rw [Bytes.window, List.drop_left' (FrameHeader.length_encode header)]

private theorem readFrame_header_append (limit : UInt32) (header : FrameHeader)
    (behind : Bytes) :
    readFrame limit (header.encode ++ behind) =
      if limit < header.length then .error (.oversized header.length)
      else if behind.length < header.length.toNat then
        .error (.torn header.length behind.length)
      else
        let payload := behind.take header.length.toNat
        if frameChecksum header.tag payload ≠ header.checksum then
          .error (.mismatch header.checksum (frameChecksum header.tag payload))
        else .ok ⟨header.tag, payload, header.checksum⟩ := by
  have decoded := FrameHeader.decode?_encode header []
  rw [List.append_nil] at decoded
  have occupied : header.encode.isEmpty = false := rfl
  have lengthIs : (behind.take header.length.toNat).length < header.length.toNat ↔
      behind.length < header.length.toNat := by
    rw [List.length_take]
    omega
  simp only [readFrame, Transfer.readFull_nil, window_header, window_payload, occupied, decoded,
    lengthIs, Bool.false_eq_true, if_false]
  split
  · rfl
  · split
    · next torn => rw [List.take_of_length_le (by omega)]
    · rfl

/-! ## The six ways -/

theorem encode_eq_header_append {header : FrameHeader} {payload : Bytes}
    (complete : payload.length = header.length.toNat) :
    (⟨header.tag, payload, header.checksum⟩ : Record).encode = header.encode ++ payload := by
  have stored : storedLength payload = header.length := by
    simp only [storedLength, complete, UInt32.ofNat_toNat]
  simp only [Record.encode, Record.header, stored]

theorem reading_readFrame (limit : UInt32) (octets : Bytes) :
    Reading limit octets (readFrame limit octets) := by
  by_cases empty : octets = []
  · subst empty
    exact .absent
  · cases decoded : FrameHeader.decode? octets with
    | none =>
        have short := FrameHeader.decode?_eq_none_iff.mp decoded
        rw [readFrame_short empty short]
        exact .partialHeader empty short
    | some header =>
        rw [FrameHeader.eq_encode_of_decode? decoded]
        generalize octets.drop FrameHeader.size = behind
        rw [readFrame_header_append]
        split
        · next oversized => exact .oversized oversized
        · next allowed =>
            have allowed := UInt32.not_lt.mp allowed
            split
            · next torn => exact .torn allowed torn
            · next enough =>
                have complete : (behind.take header.length.toNat).length =
                    header.length.toNat := by
                  rw [List.length_take]
                  omega
                have parts : header.encode ++ behind =
                    (⟨header.tag, behind.take header.length.toNat, header.checksum⟩ :
                      Record).encode ++ behind.drop header.length.toNat := by
                  rw [encode_eq_header_append complete, List.append_assoc,
                    List.take_append_drop]
                have within : (behind.take header.length.toNat).length ≤ limit.toNat := by
                  rw [complete]
                  exact UInt32.le_iff_toNat_le.mp allowed
                rw [parts]
                dsimp only
                split
                · next mismatch => exact .mismatch within mismatch
                · next matching => exact .sound ⟨within, Decidable.not_not.mp matching⟩

private theorem header_length {limit : UInt32} {record : Record}
    (within : record.payload.length ≤ limit.toNat) :
    ¬ limit < record.header.length ∧ record.header.length.toNat = record.payload.length := by
  have length : record.header.length.toNat = record.payload.length := storedLength_toNat within
  refine ⟨?_, length⟩
  simpa only [UInt32.lt_iff_toNat_lt, length, Nat.not_lt] using within

theorem readFrame_whole {limit : UInt32} {record : Record}
    (within : record.payload.length ≤ limit.toNat) (rest : Bytes) :
    readFrame limit (record.encode ++ rest) =
      if record.Sound then .ok record
      else .error (.mismatch record.checksum (frameChecksum record.tag record.payload)) := by
  obtain ⟨allowed, length⟩ := header_length within
  have enough : ¬ (record.payload ++ rest).length < record.header.length.toNat := by
    rw [length, List.length_append]
    omega
  have payload : (record.payload ++ rest).take record.header.length.toNat = record.payload := by
    rw [length, List.take_left]
  rw [Record.encode, List.append_assoc, readFrame_header_append, if_neg allowed, if_neg enough,
    payload]
  dsimp only
  by_cases sound : record.Sound
  · have matching : ¬ frameChecksum record.header.tag record.payload ≠ record.header.checksum :=
      not_not_intro sound
    rw [if_pos sound, if_neg matching]
    rfl
  · have mismatch : frameChecksum record.header.tag record.payload ≠ record.header.checksum :=
      sound
    rw [if_neg sound, if_pos mismatch]
    rfl

/-- Octets stand in one way only, and reading finds out which. -/
theorem readFrame_eq_iff {limit : UInt32} {octets : Bytes} {outcome : Except Fault Record} :
    readFrame limit octets = outcome ↔ Reading limit octets outcome := by
  constructor
  · intro read
    subst read
    exact reading_readFrame limit octets
  · intro reading
    cases reading with
    | absent => exact readFrame_nil limit
    | partialHeader nonempty short => exact readFrame_short nonempty short
    | oversized oversized => rw [readFrame_header_append, if_pos oversized]
    | torn allowed torn =>
        rw [readFrame_header_append, if_neg (UInt32.not_lt.mpr allowed), if_pos torn]
    | mismatch within unsound => rw [readFrame_whole within, if_neg unsound]
    | sound acceptable => rw [readFrame_whole acceptable.within, if_pos acceptable.sound]

theorem readFrame_eq_absent_iff {limit : UInt32} {octets : Bytes} :
    readFrame limit octets = .error .absent ↔ octets = [] := by
  rw [readFrame_eq_iff]
  constructor
  · intro reading
    cases reading
    rfl
  · rintro rfl
    exact .absent

theorem readFrame_eq_partialHeader_iff {limit : UInt32} {octets : Bytes} {available : Nat} :
    readFrame limit octets = .error (.partialHeader available) ↔
      available = octets.length ∧ octets ≠ [] ∧ octets.length < FrameHeader.size := by
  rw [readFrame_eq_iff]
  constructor
  · intro reading
    cases reading with
    | partialHeader nonempty short => exact ⟨rfl, nonempty, short⟩
  · rintro ⟨rfl, nonempty, short⟩
    exact .partialHeader nonempty short

theorem readFrame_eq_mismatch_iff {limit : UInt32} {octets : Bytes} {stored computed : UInt32} :
    readFrame limit octets = .error (.mismatch stored computed) ↔
      ∃ record : Record, record.payload.length ≤ limit.toNat ∧ ¬ record.Sound ∧
        record.encode <+: octets ∧ stored = record.checksum ∧
        computed = frameChecksum record.tag record.payload := by
  rw [readFrame_eq_iff]
  constructor
  · intro reading
    cases reading with
    | @mismatch record rest within unsound =>
        exact ⟨record, within, unsound, List.prefix_append _ _, rfl, rfl⟩
  · rintro ⟨record, within, unsound, ⟨rest, rfl⟩, rfl, rfl⟩
    exact .mismatch within unsound

/-- A frame held in memory as a whole is judged by its checksum alone. -/
theorem Record.decode_encode {limit : UInt32} {record : Record}
    (within : record.payload.length ≤ limit.toNat) :
    decode record.encode =
      if record.Sound then .ok record
      else .error (.checksumMismatch 0 record.checksum
        (frameChecksum record.tag record.payload)) := by
  obtain ⟨_, length⟩ := header_length within
  have decoded := FrameHeader.decode?_encode record.header record.payload
  have body : record.encode.drop FrameHeader.size = record.payload :=
    List.drop_left' (FrameHeader.length_encode record.header)
  have whole : ¬ record.payload.length ≠ record.header.length.toNat := by
    rw [length]
    exact not_not_intro rfl
  rw [decode, encode, decoded, ← encode, body]
  dsimp only
  rw [if_neg whole]
  by_cases sound : record.Sound
  · have matching : ¬ frameChecksum record.header.tag record.payload ≠ record.header.checksum :=
      not_not_intro sound
    rw [if_pos sound, if_neg matching]
    rfl
  · have mismatch : frameChecksum record.header.tag record.payload ≠ record.header.checksum :=
      sound
    rw [if_neg sound, if_pos mismatch]
    rfl

/-! ## Leading parts of a frame -/

/-- A frame that breaks off is read as broken off at just that place. -/
theorem readFrame_take_encode {limit : UInt32} {record : Record}
    (within : record.payload.length ≤ limit.toNat) {count : Nat}
    (broken : count < record.frameSize) :
    readFrame limit (record.encode.take count) =
      .error (if count = 0 then .absent
        else if count < FrameHeader.size then .partialHeader count
        else .torn (storedLength record.payload) (count - FrameHeader.size)) := by
  have lengthIs : (record.encode.take count).length = count := by
    rw [List.length_take, Record.length_encode]
    omega
  split
  · next none =>
      rw [none, List.take_zero]
      rfl
  · next some =>
      split
      · next short =>
          have nonempty : record.encode.take count ≠ [] := by
            intro empty
            rw [empty] at lengthIs
            exact some lengthIs.symm
          rw [readFrame_short nonempty (by omega), lengthIs]
      · next header =>
          obtain ⟨allowed, length⟩ := header_length within
          have fits : record.header.encode.length ≤ count := by
            rw [FrameHeader.length_encode]
            omega
          have parts : record.encode.take count =
              record.header.encode ++ record.payload.take (count - FrameHeader.size) := by
            rw [Record.encode, List.take_append, List.take_of_length_le fits,
              FrameHeader.length_encode]
          have partLength : (record.payload.take (count - FrameHeader.size)).length =
              count - FrameHeader.size := by
            rw [List.length_take]
            simp only [Record.frameSize] at broken
            omega
          have torn : (record.payload.take (count - FrameHeader.size)).length <
              record.header.length.toNat := by
            rw [partLength, length]
            simp only [Record.frameSize] at broken
            omega
          rw [parts, readFrame_header_append, if_neg allowed, if_pos torn, partLength]
          rfl

end FrameLog
