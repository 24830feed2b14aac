import FrameLog.Proofs.BurstErrors
import FrameLog.Proofs.UndisturbedRun

/-!
# Damage within one frame

Octets of a frame can change without its declared length: the tag, the stored checksum, or
some of the payload. A change of the tag, of the checksum, or of at most four consecutive
octets of the payload leaves a whole frame whose checksum is wrong, and neither moves nor
hides any other frame.

Main statement: such damage is met wherever the record is looked for, as a mismatch where
its frame starts, and nowhere else.
-/

set_option autoImplicit false

namespace FrameLog

/-- Octets of a record's frame that can be changed without its length being touched. -/
inductive Record.Spot (record : Record) : (place count : Nat) → Prop where
  | tag : Spot record 0 1
  | checksum {place count : Nat} :
      5 ≤ place → place + count ≤ FrameHeader.size → Spot record place count
  | payload {place count : Nat} :
      FrameHeader.size ≤ place → count ≤ 4 → place + count ≤ record.frameSize →
      Spot record place count

/-- What damage makes of a record: one of the same size that is not sound. -/
structure Record.Spoils (record altered : Record) : Prop where
  sameSize : altered.payload.length = record.payload.length
  unsound : ¬ altered.Sound

namespace Record

variable {record altered : Record} {place : Nat} {octets : Bytes}

/-! ## The three places -/

theorem spoils_tag (sound : record.Sound) {octet : UInt8}
    (changed : record.encode.overlay 0 [octet] ≠ record.encode) :
    ∃ altered, record.encode.overlay 0 [octet] = altered.encode ∧ record.Spoils altered := by
  have laid : record.encode.overlay 0 [octet] = ({ record with tag := octet } : Record).encode :=
    rfl
  refine ⟨_, laid, rfl, ?_⟩
  intro stillSound
  have differ : octet ≠ record.tag := by
    rintro rfl
    exact changed laid
  exact frameChecksum_ne_of_tag differ record.payload (Eq.trans stillSound sound.symm)

private theorem exists_ofWord_of_length {octets : Bytes} (four : octets.length = 4) :
    ∃ word, octets = Bytes.ofWord word := by
  match octets, four with
  | [first, second, third, fourth], _ =>
      exact ⟨_, (Bytes.ofWord_toWord first second third fourth).symm⟩

theorem spoils_checksum (sound : record.Sound) (behindLength : 5 ≤ place)
    (within : place + octets.length ≤ FrameHeader.size)
    (changed : record.encode.overlay place octets ≠ record.encode) :
    ∃ altered, record.encode.overlay place octets = altered.encode ∧ record.Spoils altered := by
  rw [FrameHeader.size] at within
  have fits : place - 5 + octets.length ≤ (Bytes.ofWord record.checksum).length := by
    rw [Bytes.length_ofWord]
    omega
  obtain ⟨stored, word⟩ := exists_ofWord_of_length (Bytes.length_overlay_of_le fits)
  have laid : record.encode.overlay place octets =
      ({ record with checksum := stored } : Record).encode := by
    have middle := Bytes.overlay_middle fits
      (record.tag :: Bytes.ofWord (storedLength record.payload)) record.payload
    rw [word, List.length_cons, Bytes.length_ofWord, Nat.add_sub_cancel' behindLength] at middle
    simpa [encode, header, FrameHeader.encode] using middle
  refine ⟨_, laid, rfl, ?_⟩
  intro stillSound
  have same : stored = record.checksum := Eq.trans (Eq.symm stillSound) sound
  rw [same] at laid
  exact changed laid

private theorem frameChecksum_overlay_ne (tag : UInt8) {payload : Bytes}
    (within : place + octets.length ≤ payload.length) (short : octets.length ≤ 4)
    (changed : payload.overlay place octets ≠ payload) :
    frameChecksum tag (payload.overlay place octets) ≠ frameChecksum tag payload := by
  have parts : payload.take place ++
      (payload.window place octets.length ++ payload.drop (place + octets.length)) = payload := by
    rw [Bytes.window, ← List.drop_drop, List.take_append_drop, List.take_append_drop]
  have covered : payload.overlay place octets =
      payload.take place ++ (octets ++ payload.drop (place + octets.length)) :=
    Bytes.overlay_of_le (by omega)
  have sameLength : octets.length = (payload.window place octets.length).length := by
    rw [Bytes.length_window]
    omega
  have differ : octets ≠ payload.window place octets.length := by
    intro same
    rw [← same] at parts
    exact changed (covered.trans parts)
  have burst := frameChecksum_ne_of_burst tag sameLength short differ (payload.take place)
    (payload.drop (place + octets.length))
  rwa [← covered, parts] at burst

theorem spoils_payload (sound : record.Sound) (behindHeader : FrameHeader.size ≤ place)
    (short : octets.length ≤ 4) (within : place + octets.length ≤ record.frameSize)
    (changed : record.encode.overlay place octets ≠ record.encode) :
    ∃ altered, record.encode.overlay place octets = altered.encode ∧ record.Spoils altered := by
  have fits : place - FrameHeader.size + octets.length ≤ record.payload.length := by
    rw [frameSize] at within
    omega
  have sameLength := Bytes.length_overlay_of_le fits
  have laid : record.encode.overlay place octets =
      ({ record with payload := record.payload.overlay (place - FrameHeader.size) octets } :
        Record).encode := by
    have middle := Bytes.overlay_middle fits record.header.encode []
    rw [FrameHeader.length_encode, Nat.add_sub_cancel' behindHeader, List.append_nil,
      List.append_nil] at middle
    rw [encode, middle]
    simp only [encode, header, storedLength, sameLength]
  refine ⟨_, laid, sameLength, ?_⟩
  intro stillSound
  have differ : record.payload.overlay (place - FrameHeader.size) octets ≠ record.payload := by
    intro same
    rw [same] at laid
    exact changed laid
  exact frameChecksum_overlay_ne record.tag fits short differ (Eq.trans stillSound sound.symm)

/-- Whatever is changed in one of the three places leaves the frame of an unsound record. -/
theorem Spot.spoils (spot : record.Spot place octets.length) (sound : record.Sound)
    (changed : record.encode.overlay place octets ≠ record.encode) :
    ∃ altered, record.encode.overlay place octets = altered.encode ∧ record.Spoils altered := by
  generalize counted : octets.length = count at spot
  cases spot with
  | tag =>
      obtain ⟨octet, rfl⟩ := List.length_eq_one_iff.mp counted
      exact spoils_tag sound changed
  | checksum behindLength within =>
      subst counted
      exact spoils_checksum sound behindLength within changed
  | payload behindHeader short within =>
      subst counted
      exact spoils_payload sound behindHeader short within changed

theorem Spot.within {count : Nat} (spot : record.Spot place count) :
    place + count ≤ record.encode.length := by
  have size := record.size_le_frameSize
  rw [length_encode]
  cases spot with
  | tag => exact Nat.le_trans (by decide) size
  | checksum behindLength within => exact Nat.le_trans within size
  | payload behindHeader short within => exact within

end Record

/-! ## Logs with one spoiled record -/

theorem framesSize_take_set {records : List Record} {record altered : Record} {before : Nat}
    (standing : records[before]? = some record) (spoils : record.Spoils altered) (count : Nat) :
    framesSize ((records.set before altered).take count) = framesSize (records.take count) := by
  induction records generalizing before count with
  | nil => rfl
  | cons first records ih =>
      cases count with
      | zero => rfl
      | succ count =>
          cases before with
          | zero =>
              cases standing
              simp only [List.set_cons_zero, List.take_succ_cons, framesSize, Record.frameSize,
                spoils.sameSize]
          | succ before =>
              have behind := ih (by simpa using standing) count
              simp only [List.set_cons_succ, List.take_succ_cons, framesSize, behind]

section

variable {limit : UInt32} {records : List Record} {record altered : Record} {before : Nat}

theorem logFile_set (standing : records[before]? = some record) (altered : Record) :
    logFile (records.set before altered) = logFile (records.take before) ++
      (altered.encode ++ frames (records.drop (before + 1))) := by
  obtain ⟨present, _⟩ := List.getElem?_eq_some_iff.mp standing
  have parts : logFile (records.set before altered) = _ :=
    logFile_parts (List.getElem?_set_self present)
  rwa [List.take_set_of_le (Nat.le_refl before),
    List.drop_set_of_lt (Nat.lt_succ_self before)] at parts

theorem overlay_logFile (standing : records[before]? = some record) (sound : record.Sound)
    {place : Nat} {octets : Bytes} (spot : record.Spot place octets.length)
    (changed : (logFile records).overlay
      (FileHeader.size + framesSize (records.take before) + place) octets ≠ logFile records) :
    ∃ altered, record.Spoils altered ∧ record.encode.overlay place octets = altered.encode ∧
      (logFile records).overlay
        (FileHeader.size + framesSize (records.take before) + place) octets =
          logFile (records.set before altered) := by
  have laid := Bytes.overlay_middle spot.within (logFile (records.take before))
    (frames (records.drop (before + 1)))
  rw [← logFile_parts standing, length_logFile] at laid
  have frameChanged : record.encode.overlay place octets ≠ record.encode := by
    intro same
    rw [same, ← logFile_parts standing] at laid
    exact changed laid
  obtain ⟨altered, frame, spoils⟩ := spot.spoils sound frameChanged
  rw [frame, ← logFile_set standing altered] at laid
  exact ⟨altered, spoils, frame, laid⟩

theorem readFrame_spoiled (acceptable : record.Acceptable limit) (spoils : record.Spoils altered)
    (rest : Bytes) :
    readFrame limit (altered.encode ++ rest) =
      .error (.mismatch altered.checksum (frameChecksum altered.tag altered.payload)) := by
  have within : altered.payload.length ≤ limit.toNat := by
    rw [spoils.sameSize]
    exact acceptable.within
  rw [readFrame_whole within, if_neg spoils.unsound]

end

/-! ## Handles that were open before -/

namespace Handle.Mirrors

variable {handle : Handle} {records : List Record} {record altered : Record} {before : Nat}

theorem readFrameAt_spoiled (mirrors : handle.Mirrors (logFile records) records [])
    (standing : records[before]? = some record) (spoils : record.Spoils altered) :
    readFrameAt handle.settings.maxPayloadSize (logFile (records.set before altered))
        (FileHeader.size + framesSize (records.take before)) =
      .error (.mismatch altered.checksum (frameChecksum altered.tag altered.payload)) := by
  have acceptable := mirrors.acceptable record (List.mem_of_getElem? standing)
  rw [readFrameAt, logFile_set standing altered, ← length_logFile, List.drop_left]
  exact readFrame_spoiled acceptable spoils _

theorem get_spoiled (mirrors : handle.Mirrors (logFile records) records [])
    (opened : handle.closed = false) (standing : records[before]? = some record)
    (spoils : record.Spoils altered) :
    (handle.get (logFile (records.set before altered)) (before + 1)).answer =
      .error (.checksumMismatch (FileHeader.size + framesSize (records.take before))
        altered.checksum (frameChecksum altered.tag altered.payload)) := by
  obtain ⟨present, _⟩ := List.getElem?_eq_some_iff.mp standing
  have found := mirrors.offsetOf?_eq (Nat.le_add_left 1 before) present
  rw [Nat.add_sub_cancel] at found
  rw [get_of_some opened found]
  exact readPayload_of_error (mirrors.readFrameAt_spoiled standing spoils)

theorem get_unspoiled (mirrors : handle.Mirrors (logFile records) records [])
    (opened : handle.closed = false) (standing : records[before]? = some record)
    (spoils : record.Spoils altered) {other : Nat} {untouched : Record}
    (elsewhere : other ≠ before) (found : records[other]? = some untouched) :
    (handle.get (logFile (records.set before altered)) (other + 1)).answer =
      .ok untouched.payload := by
  obtain ⟨present, _⟩ := List.getElem?_eq_some_iff.mp found
  have acceptable := mirrors.acceptable untouched (List.mem_of_getElem? found)
  have offset := mirrors.offsetOf?_eq (Nat.le_add_left 1 other) present
  rw [Nat.add_sub_cancel, ← framesSize_take_set standing spoils] at offset
  have stands := drop_size_whole_logFile (records.set before altered)
  have kept : (records.set before altered)[other]? = some untouched := by
    rw [List.getElem?_set_ne elsewhere.symm]
    exact found
  have read := readFrameAt_frameOffset_of_within stands kept acceptable.within
  rw [if_pos acceptable.sound] at read
  rw [get_of_some opened offset, readPayload_of_ok read]

theorem readAll_spoiled (mirrors : handle.Mirrors (logFile records) records [])
    (opened : handle.closed = false) (standing : records[before]? = some record)
    (spoils : record.Spoils altered) :
    (handle.readAll (logFile (records.set before altered))).answer =
      .error (.checksumMismatch (FileHeader.size + framesSize (records.take before))
        altered.checksum (frameChecksum altered.tag altered.payload)) := by
  have readable := map_readFrameAt_frameOffsets (take_acceptable mirrors.acceptable before)
    ((congrArg (List.drop FileHeader.size) (logFile_set standing altered)).trans
      (drop_size_logFile _ _))
  have stops := mirrors.readFrameAt_spoiled standing spoils
  rw [readAll_of_opened opened, mirrors.offsets, frameOffsets_parts standing]
  exact readPayloads_of_error readable stops

end Handle.Mirrors

/-! ## Opening the log afterwards -/

section

variable {settings : Settings} {records : List Record} {record altered : Record} {before : Nat}

def Report.cutAtMismatch (before validBytes : Nat) : Report where
  recordsRecovered := before
  recordsCorrupted := 1
  lastIndex := before
  wasTruncated := true
  validBytes := validBytes

theorem Handle.attach_truncate_spoiled (path : String) (ceiling : Option Nat)
    (repairing : settings.tailPolicy = .truncate)
    (acceptable : ∀ record ∈ records, record.Acceptable settings.maxPayloadSize)
    (standing : records[before]? = some record) (spoils : record.Spoils altered) :
    (attach path settings ceiling (logFile (records.set before altered))).answer =
        .ok (restored path settings (records.take before)
          (.cutAtMismatch before (FileHeader.size + framesSize (records.take before)))) ∧
      (attach path settings ceiling (logFile (records.set before altered))).file =
        logFile (records.take before) := by
  obtain ⟨present, _⟩ := List.getElem?_eq_some_iff.mp standing
  have stops := readFrame_spoiled (acceptable record (List.mem_of_getElem? standing)) spoils
    (frames (records.drop (before + 1)))
  have attached :=
    attach_truncate path ceiling repairing (take_acceptable acceptable before) stops
  have counted : (records.take before).length = before := by
    rw [List.length_take]
    omega
  have report : (Scan.mk (records.take before) (.mismatch altered.checksum
      (frameChecksum altered.tag altered.payload))).report =
        .cutAtMismatch before (FileHeader.size + framesSize (records.take before)) := by
    change Report.mk _ _ _ _ _ = _
    rw [counted]
    rfl
  rwa [← logFile_set standing altered, report] at attached

theorem Handle.attach_strict_spoiled (path : String) (ceiling : Option Nat)
    (strict : settings.tailPolicy = .strict)
    (acceptable : ∀ record ∈ records, record.Acceptable settings.maxPayloadSize)
    (standing : records[before]? = some record) (spoils : record.Spoils altered) :
    (attach path settings ceiling (logFile (records.set before altered))).answer =
        .error (.checksumMismatch (FileHeader.size + framesSize (records.take before))
          altered.checksum (frameChecksum altered.tag altered.payload)) ∧
      (attach path settings ceiling (logFile (records.set before altered))).file =
        logFile (records.set before altered) := by
  have stops := readFrame_spoiled (acceptable record (List.mem_of_getElem? standing)) spoils
    (frames (records.drop (before + 1)))
  have long : ¬ (altered.encode ++ frames (records.drop (before + 1))).length <
      FrameHeader.size := by
    have size := altered.size_le_frameSize
    rw [List.length_append, Record.length_encode]
    omega
  have attached :=
    attach_strict_of_long path ceiling strict (take_acceptable acceptable before) stops long
  rwa [← logFile_set standing altered] at attached

end

/-! ## One change, and everyone who meets it -/

/-- Whoever meets a frame that was changed in one place finds a mismatch where it starts:
repair cuts the log there, the strict policy refuses it, a handle that was open before does
not read it, and no other record is affected. -/
theorem damage_is_met_where_it_was_done (path : String) (limit : UInt32)
    (records : List Record) (acceptable : ∀ record ∈ records, record.Acceptable limit)
    (before : Nat) (record : Record) (standing : records[before]? = some record)
    (place : Nat) (octets : Bytes) (spot : record.Spot place octets.length) :
    let start := FileHeader.size + framesSize (records.take before)
    let file := (logFile records).overlay (start + place) octets
    file ≠ logFile records →
    ∃ stored computed,
      stored ≠ computed ∧
      (∀ settings ceiling, settings.maxPayloadSize = limit → settings.tailPolicy = .truncate →
        ∃ handle,
          (Handle.attach path settings ceiling file).answer = .ok handle ∧
          (Handle.attach path settings ceiling file).file = file.take start ∧
          handle.positions.offsets.map (readFrameAt limit (file.take start)) =
            (records.take before).map .ok ∧
          (handle.readAll (file.take start)).answer =
            .ok ((records.take before).map Record.payload) ∧
          handle.report = .cutAtMismatch before start ∧
          handle.counters = { corruptions := 1 }) ∧
      (∀ settings ceiling, settings.maxPayloadSize = limit → settings.tailPolicy = .strict →
        (Handle.attach path settings ceiling file).answer =
          .error (.checksumMismatch start stored computed) ∧
        (Handle.attach path settings ceiling file).file = file) ∧
      (∀ settings ceiling found handle steps, settings.maxPayloadSize = limit →
        (Handle.attach path settings ceiling found).answer = .ok handle →
        let run := handle.runAlone (Handle.attach path settings ceiling found).file steps
        run.handle.closed = false → run.file = logFile records →
          (run.handle.get file (before + 1)).answer =
            .error (.checksumMismatch start stored computed) ∧
          (run.handle.readAll file).answer =
            .error (.checksumMismatch start stored computed) ∧
          ∀ other untouched, other ≠ before → records[other]? = some untouched →
            (run.handle.get file (other + 1)).answer = .ok untouched.payload) ∧
      Record.decode (record.encode.overlay place octets) =
        .error (.checksumMismatch 0 stored computed) := by
  intro start file changed
  have accepted := acceptable record (List.mem_of_getElem? standing)
  obtain ⟨altered, spoils, frame, spoiled⟩ :=
    overlay_logFile standing accepted.sound spot changed
  change file = logFile (records.set before altered) at spoiled
  have cut : file.take start = logFile (records.take before) := by
    rw [spoiled, logFile_set standing altered]
    exact List.take_left' (length_logFile _)
  rw [cut, spoiled]
  refine ⟨altered.checksum, frameChecksum altered.tag altered.payload,
    fun same => spoils.unsound same.symm, ?_, ?_, ?_, ?_⟩
  · rintro settings ceiling rfl repairing
    obtain ⟨opened, after⟩ :=
      Handle.attach_truncate_spoiled path ceiling repairing acceptable standing spoils
    have mirrors := Handle.mirrors_restored_whole path (.cutAtMismatch before start)
      (take_acceptable acceptable before)
    refine ⟨_, opened, after, mirrors.map_readFrameAt, ?_, rfl, rfl⟩
    rw [mirrors.readAll_eq rfl]
  · rintro settings ceiling rfl strict
    exact Handle.attach_strict_spoiled path ceiling strict acceptable standing spoils
  · rintro settings ceiling found handle steps rfl opened run alive whole
    obtain ⟨_, mirrors⟩ := Handle.mirrors_runAlone acceptable opened whole
    refine ⟨mirrors.get_spoiled alive standing spoils,
      mirrors.readAll_spoiled alive standing spoils, ?_⟩
    intro other untouched elsewhere found
    exact mirrors.get_unspoiled alive standing spoils elsewhere found
  · have within : altered.payload.length ≤ limit.toNat := by
      rw [spoils.sameSize]
      exact accepted.within
    rw [frame, Record.decode_encode within, if_neg spoils.unsound]

/-- Two octets in the payload of the second of three records are changed. A handle that was
open before still reads the third. -/
theorem damage_is_met_in_second_of_three :
    let records : List Record :=
      [⟨7, [1, 2], frameChecksum 7 [1, 2]⟩, .ofPayload [3, 4, 5, 6, 7], .ofPayload []]
    let file := (logFile records).overlay 29 [4, 9, 6, 0]
    file ≠ logFile records ∧
    ∃ stored computed repaired opened,
      (Handle.attach "log.wal" {} none file).answer = .ok repaired ∧
      repaired.report = .cutAtMismatch 1 19 ∧
      (Handle.attach "log.wal" { tailPolicy := .strict } none file).answer =
        .error (.checksumMismatch 19 stored computed) ∧
      (Handle.attach "log.wal" {} none (logFile records)).answer = .ok opened ∧
      (opened.get file 2).answer = .error (.checksumMismatch 19 stored computed) ∧
      (opened.get file 3).answer = .ok [] := by
  intro records file
  have acceptable : ∀ record ∈ records, record.Acceptable ({} : Settings).maxPayloadSize := by
    intro record member
    rcases List.mem_cons.mp member with rfl | member
    · exact ⟨by decide, Record.sound_of_frameChecksum 7 [1, 2]⟩
    · rcases List.mem_cons.mp member with rfl | member
      · exact Record.acceptable_ofPayload (by decide)
      · rw [List.mem_singleton.mp member]
        exact Record.acceptable_ofPayload (by decide)
  have spot : (Record.ofPayload [3, 4, 5, 6, 7]).Spot 10 ([4, 9, 6, 0] : Bytes).length :=
    .payload (by decide) (by decide) (by decide)
  have changed : file ≠ logFile records := by decide +kernel
  obtain ⟨stored, computed, _, repairs, refuses, spares, _⟩ :=
    damage_is_met_where_it_was_done "log.wal" _ records acceptable 1 _ rfl 10 [4, 9, 6, 0] spot
      changed
  obtain ⟨repaired, answered, _, _, _, report, _⟩ := repairs {} none rfl rfl
  obtain ⟨refused, _⟩ := refuses { tailPolicy := .strict } none rfl rfl
  have nothing : readFrame ({} : Settings).maxPayloadSize [] = .error .absent := rfl
  obtain ⟨opened, whole⟩ := Handle.attach_truncate "log.wal" none rfl acceptable nothing
  rw [List.append_nil] at opened whole
  obtain ⟨missed, _, others⟩ := spares {} none (logFile records) _ [] rfl opened rfl whole
  exact ⟨changed, stored, computed, repaired, _, answered, report, refused, opened, missed,
    others 2 _ (by decide) rfl⟩

end FrameLog
