import FrameLog.Proofs.Reading
import Mathlib.Algebra.Group.Nat.Defs

/-!
# Frames by themselves and frames in a file

A frame held in memory is decoded as a whole, and has to end where its payload does. Its
header counts the payload modulo 2^32, so what is encoded of a longer record is no frame.
`Decoding` lists the four ways in which octets can stand for a frame of their own.

Main statements: decoding inverts encoding, and an encoding never begins another one; reading
a frame in a file finds what decoding the declared octets by themselves finds, and never looks
behind the place where a largest frame would end.
-/

set_option autoImplicit false

namespace FrameLog

inductive Decoding : Bytes → Except Failure Record → Prop where
  | short {octets : Bytes} :
      octets.length < FrameHeader.size →
      Decoding octets (.error (.corrupted (.shortFrame octets.length)))
  | payloadLength {header : FrameHeader} {body : Bytes} :
      body.length ≠ header.length.toNat →
      Decoding (header.encode ++ body)
        (.error (.corrupted (.payloadLength header.length body.length)))
  | mismatch {record : Record} :
      record.payload.length < 2 ^ 32 → ¬ record.Sound →
      Decoding record.encode
        (.error (.checksumMismatch 0 record.checksum (frameChecksum record.tag record.payload)))
  | sound {record : Record} :
      record.payload.length < 2 ^ 32 → record.Sound → Decoding record.encode (.ok record)

theorem le_largestLimit {length : Nat} (small : length < 2 ^ 32) :
    length ≤ (0xFFFFFFFF : UInt32).toNat :=
  Nat.le_of_lt_succ small

namespace Record

/-! ## The four ways -/

theorem decode_of_short {octets : Bytes} (short : octets.length < FrameHeader.size) :
    decode octets = .error (.corrupted (.shortFrame octets.length)) := by
  rw [decode, FrameHeader.decode?_eq_none_iff.mpr short]

theorem decode_of_payloadLength {header : FrameHeader} {body : Bytes}
    (differs : body.length ≠ header.length.toNat) :
    decode (header.encode ++ body) =
      .error (.corrupted (.payloadLength header.length body.length)) := by
  have behind : (header.encode ++ body).drop FrameHeader.size = body :=
    List.drop_left' (FrameHeader.length_encode header)
  rw [decode, FrameHeader.decode?_encode, behind]
  dsimp only
  rw [if_pos differs]

theorem decoding_decode (octets : Bytes) : Decoding octets (decode octets) := by
  cases decoded : FrameHeader.decode? octets with
  | none =>
      have short := FrameHeader.decode?_eq_none_iff.mp decoded
      rw [decode_of_short short]
      exact .short short
  | some header =>
      rw [FrameHeader.eq_encode_of_decode? decoded]
      generalize octets.drop FrameHeader.size = body
      by_cases complete : body.length = header.length.toNat
      · have small : body.length < 2 ^ 32 := by
          rw [complete]
          exact header.length.toNat_lt
        rw [← encode_eq_header_append complete, decode_encode (le_largestLimit small)]
        split
        · next sound => exact .sound small sound
        · next unsound => exact .mismatch small unsound
      · rw [decode_of_payloadLength complete]
        exact .payloadLength complete

/-- Octets stand for a frame of their own in one way only, and decoding finds out which. -/
theorem decode_eq_iff {octets : Bytes} {outcome : Except Failure Record} :
    decode octets = outcome ↔ Decoding octets outcome := by
  constructor
  · intro decoded
    subst decoded
    exact decoding_decode octets
  · intro decoding
    cases decoding with
    | short short => exact decode_of_short short
    | payloadLength differs => exact decode_of_payloadLength differs
    | mismatch small unsound => rw [decode_encode (le_largestLimit small), if_neg unsound]
    | sound small sound => rw [decode_encode (le_largestLimit small), if_pos sound]

theorem decode_eq_ok_iff {octets : Bytes} {record : Record} :
    decode octets = .ok record ↔
      octets = record.encode ∧ record.Sound ∧ record.payload.length < 2 ^ 32 := by
  rw [decode_eq_iff]
  constructor
  · intro decoding
    cases decoding with
    | sound small sound => exact ⟨rfl, sound, small⟩
  · rintro ⟨rfl, sound, small⟩
    exact .sound small sound

theorem decode_encode_of_long {record : Record} (long : 2 ^ 32 ≤ record.payload.length) :
    decode record.encode =
      .error (.corrupted
        (.payloadLength (storedLength record.payload) record.payload.length)) := by
  have wrapped : record.payload.length ≠ record.header.length.toNat := by
    have bound := (storedLength record.payload).toNat_lt
    exact Nat.ne_of_gt (Nat.lt_of_lt_of_le bound long)
  exact decode_of_payloadLength wrapped

/-! ## Encodings in front of other octets -/

theorem eq_of_header_of_payload {left right : Record} (header : left.header = right.header)
    (payload : left.payload = right.payload) : left = right := by
  rcases left with ⟨tag, octets, checksum⟩
  rcases right with ⟨other, others, stored⟩
  cases payload
  cases header
  rfl

theorem header_and_payload_of_encode_append {left right : Record} {rest : Bytes}
    (joined : left.encode ++ rest = right.encode) :
    left.header = right.header ∧ left.payload ++ rest = right.payload := by
  rw [encode, encode, List.append_assoc] at joined
  obtain ⟨headers, payloads⟩ := List.append_inj joined rfl
  have decoded := FrameHeader.decode?_encode left.header []
  rw [headers, FrameHeader.decode?_encode right.header []] at decoded
  exact ⟨(Option.some.inj decoded).symm, payloads⟩

theorem eq_of_encode_eq {left right : Record} (same : left.encode = right.encode) :
    left = right := by
  rw [← List.append_nil left.encode] at same
  obtain ⟨header, payload⟩ := header_and_payload_of_encode_append same
  rw [List.append_nil] at payload
  exact eq_of_header_of_payload header payload

/-- Two frames that begin with one header have payloads of one length, so neither goes on
where the other ends. -/
theorem eq_of_encode_prefix {left right : Record} (leftSmall : left.payload.length < 2 ^ 32)
    (rightSmall : right.payload.length < 2 ^ 32) (leads : left.encode <+: right.encode) :
    left = right := by
  obtain ⟨rest, joined⟩ := leads
  obtain ⟨header, payload⟩ := header_and_payload_of_encode_append joined
  have lengths : left.payload.length = right.payload.length := by
    rw [← storedLength_toNat (le_largestLimit leftSmall),
      ← storedLength_toNat (le_largestLimit rightSmall)]
    exact congrArg (fun header => header.length.toNat) header
  have nothing : rest = [] := by
    rw [← payload, List.length_append] at lengths
    exact List.length_eq_zero_iff.mp (by omega)
  rw [nothing, List.append_nil] at payload
  exact eq_of_header_of_payload header payload

end Record

/-- What decodes is the encoding of its result, and the encoding of a record decodes to it
exactly if the record is sound and its length is stored as it is. Distinct records never share
an encoding, and none that stores its length begins another one. -/
theorem decoding_inverts_encoding :
    (∀ octets record, Record.decode octets = .ok record →
      record.encode = octets ∧ record.Sound ∧ record.frameSize = octets.length) ∧
    (∀ record : Record,
      (Record.decode record.encode = .ok record ↔
        record.Sound ∧ record.payload.length < 2 ^ 32) ∧
      (record.payload.length < 2 ^ 32 → ¬ record.Sound →
        Record.decode record.encode =
          .error (.checksumMismatch 0 record.checksum
            (frameChecksum record.tag record.payload))) ∧
      (2 ^ 32 ≤ record.payload.length →
        Record.decode record.encode =
          .error (.corrupted
            (.payloadLength (storedLength record.payload) record.payload.length)))) ∧
    (∀ left right : Record, left.encode = right.encode → left = right) ∧
    ∀ left right : Record, left.payload.length < 2 ^ 32 → right.payload.length < 2 ^ 32 →
      left.encode <+: right.encode → left = right := by
  refine ⟨?_, ?_, fun _ _ same => Record.eq_of_encode_eq same,
    fun _ _ leftSmall rightSmall leads => Record.eq_of_encode_prefix leftSmall rightSmall leads⟩
  · intro octets record decoded
    obtain ⟨rfl, sound, _⟩ := Record.decode_eq_ok_iff.mp decoded
    exact ⟨rfl, sound, record.length_encode.symm⟩
  · intro record
    refine ⟨?_, ?_, Record.decode_encode_of_long⟩
    · rw [Record.decode_eq_ok_iff]
      exact and_iff_right rfl
    · intro small unsound
      exact Record.decode_eq_iff.mpr (.mismatch small unsound)

/-- A record with a wrong checksum; one whose payload is so long that a length of zero is
stored for it; and two of which the shorter does not begin the longer. -/
theorem decoding_inverts_encoding_up_to_wrapped_length :
    let unsound : Record := ⟨7, [1, 2], 0⟩
    let wrapped : Record := ⟨7, List.replicate (2 ^ 32) 0, 0⟩
    Record.decode unsound.encode =
        .error (.checksumMismatch 0 0 (frameChecksum 7 [1, 2])) ∧
      Record.decode wrapped.encode = .error (.corrupted (.payloadLength 0 (2 ^ 32))) ∧
      Record.decode (Record.ofPayload []).encode = .ok (.ofPayload []) ∧
      ¬ (Record.ofPayload []).encode <+: (Record.ofPayload [3]).encode := by
  intro unsound wrapped
  obtain ⟨_, judged, _, apart⟩ := decoding_inverts_encoding
  have length : wrapped.payload.length = 2 ^ 32 := List.length_replicate
  have differ : ¬ unsound.Sound := by decide +kernel
  have wrapping := (judged wrapped).2.2 (Nat.le_of_eq length.symm)
  rw [storedLength, length] at wrapping
  refine ⟨(judged unsound).2.1 (by decide) differ, wrapping,
    (judged _).1.mpr ⟨Record.sound_ofPayload [], by decide⟩, ?_⟩
  intro leads
  have same := apart _ _ (by decide) (by decide) leads
  cases same

/-! ## Reading and decoding -/

/-- A frame that is there as a whole is read, and decoded by itself, as one record or as one
mismatch. -/
inductive SameVerdict : Except Fault Record → Except Failure Record → Prop where
  | sound {record : Record} : SameVerdict (.ok record) (.ok record)
  | mismatch {stored computed : UInt32} :
      SameVerdict (.error (.mismatch stored computed))
        (.error (.checksumMismatch 0 stored computed))

/-- What can be read behind a header, of the octets that begin with it. -/
inductive FrameHeader.Judged (header : FrameHeader) (limit : UInt32) (octets : Bytes) :
    Except Fault Record → Prop where
  | oversized : limit < header.length → Judged header limit octets
      (.error (.oversized header.length))
  | torn : header.length ≤ limit → octets.length < header.frameSize →
      Judged header limit octets
        (.error (.torn header.length (octets.length - FrameHeader.size)))
  | whole {outcome : Except Fault Record} : header.length ≤ limit →
      header.frameSize ≤ octets.length →
      SameVerdict outcome (Record.decode (octets.take header.frameSize)) →
      Judged header limit octets outcome

section

variable {limit : UInt32} {octets : Bytes} {header : FrameHeader}

theorem exists_record_of_whole (decoded : FrameHeader.decode? octets = some header)
    (whole : header.frameSize ≤ octets.length) :
    ∃ record : Record, octets.take header.frameSize = record.encode ∧
      record.payload.length = header.length.toNat := by
  rw [FrameHeader.frameSize] at whole
  have complete : ((octets.drop FrameHeader.size).take header.length.toNat).length =
      header.length.toNat := by
    rw [List.length_take, List.length_drop]
    omega
  refine ⟨⟨header.tag, _, header.checksum⟩, ?_, complete⟩
  rw [encode_eq_header_append complete, FrameHeader.frameSize, ← header.length_encode,
    ← List.take_length_add_append, header.length_encode,
    ← FrameHeader.eq_encode_of_decode? decoded]

theorem sameVerdict_of_whole (decoded : FrameHeader.decode? octets = some header)
    (allowed : header.length ≤ limit) (whole : header.frameSize ≤ octets.length) :
    SameVerdict (readFrame limit octets) (Record.decode (octets.take header.frameSize)) := by
  obtain ⟨record, frame, length⟩ := exists_record_of_whole decoded whole
  have within : record.payload.length ≤ limit.toNat := by
    rw [length]
    exact UInt32.le_iff_toNat_le.mp allowed
  have read := readFrame_whole within (octets.drop header.frameSize)
  rw [← frame, List.take_append_drop] at read
  rw [read, frame, Record.decode_encode within]
  split
  · exact .sound
  · exact .mismatch

theorem judged_readFrame (decoded : FrameHeader.decode? octets = some header) :
    header.Judged limit octets (readFrame limit octets) := by
  by_cases allowed : header.length ≤ limit
  · by_cases whole : header.frameSize ≤ octets.length
    · exact .whole allowed whole (sameVerdict_of_whole decoded allowed whole)
    · have parts := FrameHeader.eq_encode_of_decode? decoded
      have torn : (octets.drop FrameHeader.size).length < header.length.toNat := by
        have length := congrArg List.length parts
        rw [List.length_append, FrameHeader.length_encode] at length
        rw [FrameHeader.frameSize] at whole
        omega
      have reading : Reading limit _ _ := .torn allowed torn
      rw [← parts, List.length_drop] at reading
      rw [readFrame_eq_iff.mpr reading]
      exact .torn allowed (Nat.lt_of_not_le whole)
  · have oversized : limit < header.length := UInt32.not_le.mp allowed
    have reading : Reading limit (header.encode ++ octets.drop FrameHeader.size) _ :=
      .oversized oversized
    rw [← FrameHeader.eq_encode_of_decode? decoded] at reading
    rw [readFrame_eq_iff.mpr reading]
    exact .oversized oversized

theorem FrameHeader.Judged.eq_oversized_iff {outcome : Except Fault Record} {declared : UInt32}
    (judged : header.Judged limit octets outcome) :
    outcome = .error (.oversized declared) ↔ declared = header.length ∧ limit < header.length := by
  cases judged with
  | oversized exceeds =>
      constructor
      · intro claimed
        cases claimed
        exact ⟨rfl, exceeds⟩
      · rintro ⟨rfl, _⟩
        rfl
  | torn allowed broken =>
      refine iff_of_false ?_ fun claimed => absurd claimed.2 (UInt32.not_lt.mpr allowed)
      intro claimed
      cases claimed
  | whole allowed complete verdict =>
      refine iff_of_false ?_ fun claimed => absurd claimed.2 (UInt32.not_lt.mpr allowed)
      rintro rfl
      cases verdict

theorem FrameHeader.Judged.eq_torn_iff {outcome : Except Fault Record} {declared : UInt32}
    {held : Nat} (judged : header.Judged limit octets outcome) :
    outcome = .error (.torn declared held) ↔
      (declared = header.length ∧ held = octets.length - FrameHeader.size) ∧
        header.length ≤ limit ∧ octets.length < header.frameSize := by
  cases judged with
  | oversized exceeds =>
      refine iff_of_false ?_ fun claimed => absurd exceeds (UInt32.not_lt.mpr claimed.2.1)
      intro claimed
      cases claimed
  | torn allowed broken =>
      constructor
      · intro claimed
        cases claimed
        exact ⟨⟨rfl, rfl⟩, allowed, broken⟩
      · rintro ⟨⟨rfl, rfl⟩, _⟩
        rfl
  | whole allowed complete verdict =>
      refine iff_of_false ?_ fun claimed => absurd claimed.2.2 (Nat.not_lt.mpr complete)
      rintro rfl
      cases verdict

theorem SameVerdict.eq_ok_iff {outcome : Except Fault Record} {decoded : Except Failure Record}
    (verdict : SameVerdict outcome decoded) {record : Record} :
    outcome = .ok record ↔ decoded = .ok record := by
  cases verdict with
  | sound =>
      constructor
      · intro claimed
        cases claimed
        rfl
      · intro claimed
        cases claimed
        rfl
  | mismatch =>
      apply iff_of_false
      · intro claimed
        cases claimed
      · intro claimed
        cases claimed

theorem SameVerdict.eq_mismatch_iff {outcome : Except Fault Record}
    {decoded : Except Failure Record} (verdict : SameVerdict outcome decoded)
    {stored computed : UInt32} :
    outcome = .error (.mismatch stored computed) ↔
      decoded = .error (.checksumMismatch 0 stored computed) := by
  cases verdict with
  | sound =>
      apply iff_of_false
      · intro claimed
        cases claimed
      · intro claimed
        cases claimed
  | mismatch =>
      constructor
      · intro claimed
        cases claimed
        rfl
      · intro claimed
        cases claimed
        rfl

/-! ## How far reading looks -/

theorem take_largestFrame {record : Record} (within : record.payload.length ≤ limit.toNat)
    (rest : Bytes) :
    ∃ shorter, (record.encode ++ rest).take (FrameHeader.size + limit.toNat) =
      record.encode ++ shorter := by
  have reaches : record.encode.length ≤ FrameHeader.size + limit.toNat := by
    rw [Record.length_encode]
    exact Nat.add_le_add_left within FrameHeader.size
  rw [List.take_append, List.take_of_length_le reaches]
  exact ⟨_, rfl⟩

/-- Octets behind the place where a largest frame would end are never looked at. -/
theorem readFrame_take (limit : UInt32) (octets : Bytes) :
    readFrame limit (octets.take (FrameHeader.size + limit.toNat)) = readFrame limit octets := by
  have reading := reading_readFrame limit octets
  generalize readFrame limit octets = outcome at reading ⊢
  rw [readFrame_eq_iff]
  cases reading with
  | absent =>
      rw [List.take_nil]
      exact .absent
  | partialHeader nonempty short =>
      rw [List.take_of_length_le (by omega)]
      exact .partialHeader nonempty short
  | @oversized header behind oversized =>
      rw [← header.length_encode, List.take_length_add_append]
      exact .oversized oversized
  | @torn header behind allowed torn =>
      have fits : behind.length ≤ limit.toNat :=
        Nat.le_of_lt (Nat.lt_of_lt_of_le torn (UInt32.le_iff_toNat_le.mp allowed))
      rw [← header.length_encode, List.take_length_add_append, List.take_of_length_le fits]
      exact .torn allowed torn
  | @mismatch record rest within unsound =>
      obtain ⟨shorter, cut⟩ := take_largestFrame within rest
      rw [cut]
      exact .mismatch within unsound
  | @sound record rest acceptable =>
      obtain ⟨shorter, cut⟩ := take_largestFrame acceptable.within rest
      rw [cut]
      exact .sound acceptable

theorem readFrameAt_congr {file other : Bytes} {offset place : Nat}
    (same : other.window place (FrameHeader.size + limit.toNat) =
      file.window offset (FrameHeader.size + limit.toNat)) :
    readFrameAt limit other place = readFrameAt limit file offset := by
  rw [Bytes.window, Bytes.window] at same
  rw [readFrameAt, ← readFrame_take, same, readFrame_take]
  rfl

end

/-- What is read at an offset, by the number of octets there and the length that they
declare. A whole frame within the limit is judged as if it were decoded by itself, and
decoding it can only succeed or find a mismatch. Two files that agree as far as a largest
frame reaches, the end of the contents included, read the same. -/
theorem reading_agrees_with_decoding (limit : UInt32) (file : Bytes) (offset : Nat) :
    let available := file.length - offset
    let outcome := readFrameAt limit file offset
    (outcome = .error .absent ↔ available = 0) ∧
    (∀ count, outcome = .error (.partialHeader count) ↔
      count = available ∧ 1 ≤ available ∧ available < FrameHeader.size) ∧
    (FrameHeader.size ≤ available →
      ∃ header, FrameHeader.decode? (file.drop offset) = some header ∧
        let decoded := Record.decode (file.window offset header.frameSize)
        (∀ declared, outcome = .error (.oversized declared) ↔
          declared = header.length ∧ limit < header.length) ∧
        (∀ declared held, outcome = .error (.torn declared held) ↔
          (declared = header.length ∧ held = available - FrameHeader.size) ∧
            header.length ≤ limit ∧ available < header.frameSize) ∧
        (header.length ≤ limit → header.frameSize ≤ available →
          (∀ record, outcome = .ok record ↔ decoded = .ok record) ∧
          (∀ record, outcome = .ok record → record.frameSize = header.frameSize) ∧
          (∀ stored computed, outcome = .error (.mismatch stored computed) ↔
            decoded = .error (.checksumMismatch 0 stored computed)) ∧
          ∀ failure, decoded = .error failure →
            ∃ stored computed, failure = .checksumMismatch 0 stored computed)) ∧
    ∀ other place,
      other.window place (FrameHeader.size + limit.toNat) =
        file.window offset (FrameHeader.size + limit.toNat) →
      readFrameAt limit other place = outcome := by
  intro available outcome
  have length : (file.drop offset).length = available := List.length_drop
  rw [← length]
  refine ⟨?_, ?_, ?_, fun other place same => readFrameAt_congr same⟩
  · rw [List.length_eq_zero_iff]
    exact readFrame_eq_absent_iff
  · intro count
    rw [Nat.one_le_iff_ne_zero, ne_eq, List.length_eq_zero_iff]
    exact readFrame_eq_partialHeader_iff
  · intro enough
    cases found : FrameHeader.decode? (file.drop offset) with
    | none => exact absurd enough (Nat.not_le.mpr (FrameHeader.decode?_eq_none_iff.mp found))
    | some header =>
        have judged : header.Judged limit (file.drop offset) outcome := judged_readFrame found
        refine ⟨header, rfl, fun declared => judged.eq_oversized_iff,
          fun declared held => judged.eq_torn_iff, ?_⟩
        intro allowed complete
        have verdict : SameVerdict outcome (Record.decode (file.window offset header.frameSize)) :=
          sameVerdict_of_whole found allowed complete
        refine ⟨fun record => verdict.eq_ok_iff, ?_, fun stored computed => verdict.eq_mismatch_iff,
          ?_⟩
        · intro record read
          have encoded := (Record.decode_eq_ok_iff.mp (verdict.eq_ok_iff.mp read)).1
          rw [← Record.length_encode, ← encoded, Bytes.window, List.length_take,
            Nat.min_eq_left complete]
        · intro failure failed
          generalize outcome = outcome at verdict
          rw [failed] at verdict
          cases verdict
          exact ⟨_, _, rfl⟩

/-- A frame as large as the limit allows, with octets behind it that differ in the two files,
and a frame that declares the greatest length there is. -/
theorem reading_agrees_with_decoding_at_limit :
    let file := logFile [.ofPayload [1, 2]] ++ [1, 255, 255, 255, 255, 0, 0, 0, 0]
    let other := (Record.ofPayload [1, 2]).encode ++ [7]
    readFrameAt 2 file 8 = .ok (.ofPayload [1, 2]) ∧
      readFrameAt 2 other 0 = .ok (.ofPayload [1, 2]) ∧
      readFrameAt 2 file 19 = .error (.oversized 0xFFFFFFFF) := by
  intro file other
  have first : FrameHeader.decode? (file.drop 8) = some (Record.ofPayload [1, 2]).header := by
    decide +kernel
  obtain ⟨_, _, judged, elsewhere⟩ := reading_agrees_with_decoding 2 file 8
  obtain ⟨header, found, _, _, whole⟩ := judged (by decide +kernel)
  rw [first] at found
  cases found
  have read := ((whole (by decide +kernel) (by decide +kernel)).1 (.ofPayload [1, 2])).mpr
    (Record.decode_eq_ok_iff.mpr (by decide +kernel))
  refine ⟨read, (elsewhere other 0 (by decide +kernel)).trans read, ?_⟩
  obtain ⟨_, _, judged, _⟩ := reading_agrees_with_decoding 2 file 19
  obtain ⟨header, found, oversized, _⟩ := judged (by decide +kernel)
  cases found
  exact (oversized _).mpr (by decide +kernel)

end FrameLog
