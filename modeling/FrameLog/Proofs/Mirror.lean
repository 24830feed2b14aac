import FrameLog.Proofs.Extent
import FrameLog.Proofs.Requests

/-!
# Handles that mirror their file

The invariant that ties what a handle knows to the octets of its file. The file is a log of
acceptable records and less than a frame header behind them; the handle knows where each of
the records starts, where the last one ends, and which index comes next. Octets behind the
log can only have been there when it was opened, so whatever reaches the file removes them.

Main statements: what each request answers and leaves behind on a handle that mirrors its
file, and that every request keeps the handle a mirror.
-/

set_option autoImplicit false

namespace FrameLog

open PlainLog (Permits)

/-- The handle knows these records in the file, and `dangling` stands behind them. -/
structure Handle.Mirrors (handle : Handle) (file : Bytes) (records : List Record)
    (dangling : Bytes) : Prop where
  contents : file = logFile records ++ dangling
  acceptable : ∀ record ∈ records, record.Acceptable handle.settings.maxPayloadSize
  short : dangling.length < FrameHeader.size
  offsets : handle.positions.offsets = frameOffsets FileHeader.size records
  writeOffset : handle.writeOffset = FileHeader.size + framesSize records
  nextIndex : handle.nextIndex = records.length + 1

theorem Record.acceptable_ofPayload {limit : UInt32} {payload : Bytes}
    (within : payload.length ≤ limit.toNat) : (ofPayload payload).Acceptable limit :=
  ⟨within, sound_ofPayload payload⟩

theorem Record.acceptable_map_ofPayload {limit : UInt32} {payloads : List Bytes}
    (within : ∀ payload ∈ payloads, payload.length ≤ limit.toNat) :
    ∀ record ∈ payloads.map ofPayload, record.Acceptable limit := by
  intro record member
  obtain ⟨payload, among, rfl⟩ := List.mem_map.mp member
  exact acceptable_ofPayload (within payload among)

theorem Record.map_payload_ofPayload (payloads : List Bytes) :
    (payloads.map ofPayload).map payload = payloads := by
  rw [List.map_map]
  exact List.map_id _

theorem Record.sound_of_frameChecksum (tag : UInt8) (payload : Bytes) :
    (⟨tag, payload, frameChecksum tag payload⟩ : Record).Sound := rfl

theorem Record.size_le_frameSize (record : Record) : FrameHeader.size ≤ record.frameSize := by
  rw [frameSize]
  omega

theorem Record.frameSize_pos (record : Record) : 0 < record.frameSize :=
  Nat.lt_of_lt_of_le (by decide) record.size_le_frameSize

namespace Handle.Mirrors

variable {handle : Handle} {file dangling : Bytes} {records : List Record}

theorem length_eq (mirrors : handle.Mirrors file records dangling) :
    handle.length = records.length := by
  rw [Handle.length, Positions.length, mirrors.offsets, length_frameOffsets]

theorem logFile_length (mirrors : handle.Mirrors file records dangling) :
    (logFile records).length = handle.writeOffset := by
  rw [length_logFile, mirrors.writeOffset]

theorem take_writeOffset (mirrors : handle.Mirrors file records dangling) :
    file.take handle.writeOffset = logFile records := by
  rw [← mirrors.logFile_length, mirrors.contents, List.take_left]

theorem behind_header (mirrors : handle.Mirrors file records dangling) :
    file.drop FileHeader.size = frames records ++ dangling := by
  rw [mirrors.contents, drop_size_logFile]

/-- Counting and closing touch nothing that is mirrored. -/
theorem recounted (mirrors : handle.Mirrors file records dangling) (closed : Bool)
    (counters : Counters) :
    ({ handle with closed, counters } : Handle).Mirrors file records dangling :=
  ⟨mirrors.contents, mirrors.acceptable, mirrors.short, mirrors.offsets, mirrors.writeOffset,
    mirrors.nextIndex⟩

/-! ## Reading back -/

/-- A new scan of the file finds what the handle knows. -/
theorem scan_eq (mirrors : handle.Mirrors file records dangling) :
    ∃ fault, scanFile handle.settings.maxPayloadSize file = ⟨records, fault⟩ ∧
      fault.isMismatch = false := by
  obtain ⟨fault, stops, matching⟩ :=
    unfinished_of_short handle.settings.maxPayloadSize mirrors.short dangling.length
  rw [List.take_length] at stops
  refine ⟨fault, ?_, matching⟩
  rw [mirrors.contents]
  exact scanFile_logFile_append mirrors.acceptable stops

theorem eq_of_logFile {others : List Record} {dangling : Bytes}
    (mirrors : handle.Mirrors (logFile records) others dangling)
    (acceptable : ∀ record ∈ records, record.Acceptable handle.settings.maxPayloadSize) :
    handle.Mirrors (logFile records) records [] := by
  obtain ⟨fault, scanned, _⟩ := mirrors.scan_eq
  have whole : scanFile handle.settings.maxPayloadSize (logFile records) =
      ⟨records, .absent⟩ := by
    rw [scanFile, drop_size_whole_logFile]
    exact scan_eq_iff.mpr ⟨acceptable, [], rfl, rfl⟩
  rw [whole] at scanned
  cases scanned
  have nothing : dangling = [] := List.self_eq_append_right.mp mirrors.contents
  rwa [nothing] at mirrors

theorem map_readFrameAt (mirrors : handle.Mirrors file records dangling) :
    handle.positions.offsets.map (readFrameAt handle.settings.maxPayloadSize file) =
      records.map .ok := by
  rw [mirrors.offsets]
  exact map_readFrameAt_frameOffsets mirrors.acceptable mirrors.behind_header

theorem offsetOf?_eq (mirrors : handle.Mirrors file records dangling) {index : Nat}
    (positive : 1 ≤ index) (present : index ≤ records.length) :
    handle.positions.offsetOf? index =
      some (FileHeader.size + framesSize (records.take (index - 1))) := by
  rw [Positions.offsetOf?_eq_some_iff, mirrors.offsets]
  exact ⟨by omega, getElem?_frameOffsets (by omega) _⟩

theorem offsetOf?_eq_none (mirrors : handle.Mirrors file records dangling) {index : Nat}
    (missing : ¬ (1 ≤ index ∧ index ≤ records.length)) :
    handle.positions.offsetOf? index = none := by
  have length : handle.positions.length = records.length := mirrors.length_eq
  rw [Positions.offsetOf?_eq_none_iff, length]
  omega

theorem get_of_getElem? (mirrors : handle.Mirrors file records dangling)
    (opened : handle.closed = false) {index : Nat} {record : Record} (positive : 1 ≤ index)
    (found : records[index - 1]? = some record) :
    handle.get file index = ⟨.ok record.payload, handle, file, []⟩ := by
  obtain ⟨present, _⟩ := List.getElem?_eq_some_iff.mp found
  have read := readFrameAt_frameOffset mirrors.acceptable mirrors.behind_header found
  rw [get_of_some opened (mirrors.offsetOf?_eq positive (by omega))]
  exact readPayload_of_ok read

theorem get_of_missing (mirrors : handle.Mirrors file records dangling)
    (opened : handle.closed = false) {index : Nat}
    (missing : ¬ (1 ≤ index ∧ index ≤ records.length)) :
    handle.get file index =
      .refused handle file (.indexOutOfRange index records.length) := by
  have last : handle.lastIndex = records.length := mirrors.length_eq
  rw [get_of_none opened (mirrors.offsetOf?_eq_none missing), last]

theorem readAll_eq (mirrors : handle.Mirrors file records dangling)
    (opened : handle.closed = false) :
    handle.readAll file = ⟨.ok (records.map Record.payload), handle, file, []⟩ := by
  rw [readAll_of_opened opened]
  exact readPayloads_of_ok mirrors.map_readFrameAt

/-! ## Appending -/

/-- What stood behind the log is covered by the new frame, which is longer. -/
theorem appended (mirrors : handle.Mirrors file records dangling) {payload : Bytes}
    (within : payload.length ≤ handle.settings.maxPayloadSize.toNat) :
    (handle.appended payload).Mirrors
      (file.overlay handle.writeOffset (Record.ofPayload payload).encode)
      (records ++ [Record.ofPayload payload]) [] where
  contents := by
    have covered : dangling.drop (Record.ofPayload payload).encode.length = [] := by
      have short := mirrors.short
      have size := (Record.ofPayload payload).size_le_frameSize
      rw [List.drop_eq_nil_iff, Record.length_encode]
      omega
    rw [← mirrors.logFile_length, mirrors.contents, Bytes.overlay_append, covered,
      logFile_append]
    simp
  acceptable := by
    intro record member
    rcases List.mem_append.mp member with old | new
    · exact mirrors.acceptable record old
    · rw [List.mem_singleton.mp new]
      exact Record.acceptable_ofPayload within
  short := Nat.zero_lt_succ _
  offsets := by
    rw [frameOffsets_append, ← mirrors.writeOffset, ← mirrors.offsets]
    rfl
  writeOffset := by
    rw [framesSize_append, ← Nat.add_assoc, ← mirrors.writeOffset]
    rfl
  nextIndex := by
    rw [List.length_append, ← mirrors.length_eq]
    rfl

theorem setLength_overlay (mirrors : handle.Mirrors file records dangling)
    (ceiling : Option Nat) (piece : Bytes) :
    Transfer.setLength ceiling (file.overlay handle.writeOffset piece) handle.writeOffset =
      ⟨logFile records, none⟩ := by
  rw [← mirrors.logFile_length, mirrors.contents, Bytes.overlay_append]
  rw [Transfer.setLength_of_le (by simp), List.take_left]

theorem cutBack (mirrors : handle.Mirrors file records dangling) :
    handle.Mirrors (logFile records) records [] :=
  ⟨(List.append_nil _).symm, mirrors.acceptable, Nat.zero_lt_succ _, mirrors.offsets,
    mirrors.writeOffset, mirrors.nextIndex⟩

theorem append_of_not_permits (mirrors : handle.Mirrors file records dangling)
    {ceiling : Option Nat} {payload : Bytes} (opened : handle.closed = false)
    (within : payload.length ≤ handle.settings.maxPayloadSize.toNat)
    (forbidden : ¬ Permits ceiling (handle.writeOffset + (Record.ofPayload payload).frameSize)) :
    handle.append ceiling file payload =
      ⟨.error (.io .fileTooLarge), handle, logFile records, []⟩ := by
  obtain ⟨moved, served⟩ := Handle.append_of_not_permits file opened within forbidden
  rw [served, mirrors.setLength_overlay]
  rfl

/-- An append that is answered with an index adds one whole frame to the file. -/
theorem append_eq_ok (mirrors : handle.Mirrors file records []) {ceiling : Option Nat}
    {payload : Bytes} {index : Nat}
    (answered : (handle.append ceiling file payload).answer = .ok index) :
    payload.length ≤ handle.settings.maxPayloadSize.toNat ∧
      (handle.append ceiling file payload).file =
        logFile (records ++ [Record.ofPayload payload]) := by
  cases closed : handle.closed with
  | true =>
      rw [Handle.append_of_closed closed] at answered
      cases answered
  | false =>
      by_cases within : payload.length ≤ handle.settings.maxPayloadSize.toNat
      · by_cases permitted :
          Permits ceiling (handle.writeOffset + (Record.ofPayload payload).frameSize)
        · rw [Handle.append_of_permits closed within permitted]
          have longer := (mirrors.appended within).contents
          rw [List.append_nil] at longer
          exact ⟨within, longer⟩
        · rw [mirrors.append_of_not_permits closed within permitted] at answered
          cases answered
      · rw [Handle.append_of_oversized closed (Nat.not_le.mp within)] at answered
        cases answered

/-! ## Truncating -/

theorem truncateFrom_of_missing (mirrors : handle.Mirrors file records dangling)
    (opened : handle.closed = false) (ceiling : Option Nat) {index : Nat}
    (missing : ¬ (1 ≤ index ∧ index ≤ records.length)) :
    handle.truncateFrom ceiling file index =
      .refused handle file (.invalidTruncation index records.length) := by
  rw [truncateFrom_of_none opened (mirrors.offsetOf?_eq_none missing), mirrors.length_eq]

theorem truncated (mirrors : handle.Mirrors file records dangling) {index : Nat}
    (positive : 1 ≤ index) (present : index ≤ records.length) :
    (handle.truncated index
        (FileHeader.size + framesSize (records.take (index - 1)))).Mirrors
      (logFile (records.take (index - 1))) (records.take (index - 1)) [] where
  contents := (List.append_nil _).symm
  acceptable := fun record member => mirrors.acceptable record (List.mem_of_mem_take member)
  short := Nat.zero_lt_succ _
  offsets := by
    change handle.positions.offsets.take (index - 1) = _
    rw [mirrors.offsets]
    exact take_frameOffsets _ _ _
  writeOffset := rfl
  nextIndex := by
    change index = _
    rw [List.length_take]
    omega

theorem truncateFrom_eq (mirrors : handle.Mirrors file records dangling)
    (opened : handle.closed = false) (ceiling : Option Nat) {index : Nat} (positive : 1 ≤ index)
    (present : index ≤ records.length) :
    handle.truncateFrom ceiling file index =
      ⟨.ok (), handle.truncated index (FileHeader.size + framesSize (records.take (index - 1))),
        logFile (records.take (index - 1)),
        [.truncated index (FileHeader.size + framesSize (records.take (index - 1)))
          (records.length - (index - 1))]⟩ := by
  have parts : file = logFile (records.take (index - 1)) ++
      (frames (records.drop (index - 1)) ++ dangling) := by
    rw [← List.append_assoc, ← logFile_append, List.take_append_drop, mirrors.contents]
  have cut : file.resize (FileHeader.size + framesSize (records.take (index - 1))) =
      logFile (records.take (index - 1)) := by
    rw [parts, ← length_logFile, Bytes.resize_append_left]
  have shrinks : FileHeader.size + framesSize (records.take (index - 1)) ≤ file.length := by
    rw [parts, ← length_logFile, List.length_append]
    exact Nat.le_add_right _ _
  rw [truncateFrom_of_permits opened (mirrors.offsetOf?_eq positive present)
    fun grows => absurd grows (Nat.not_lt.mpr shrinks), cut, mirrors.length_eq]

theorem truncateFrom (mirrors : handle.Mirrors file records dangling)
    (opened : handle.closed = false) (ceiling : Option Nat) {index : Nat} (positive : 1 ≤ index)
    (present : index ≤ records.length) :
    let cut := handle.truncateFrom ceiling file index
    cut.answer = .ok () ∧ cut.file = logFile (records.take (index - 1)) ∧
      cut.handle.settings = handle.settings ∧ cut.handle.closed = false ∧
      cut.handle.Mirrors (logFile (records.take (index - 1))) (records.take (index - 1)) [] := by
  intro cut
  have equal : cut = _ := mirrors.truncateFrom_eq opened ceiling positive present
  rw [equal]
  exact ⟨rfl, rfl, rfl, opened, mirrors.truncated positive present⟩

end Handle.Mirrors

end FrameLog
