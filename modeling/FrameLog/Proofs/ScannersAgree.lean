import FrameLog.Proofs.Streaming
import FrameLog.Proofs.WaysOfOpening

/-!
# Four readers of one file

Opening for repair, opening under the strict policy, checking and streaming all go through
the frames of a file, and treat what stands behind the sound ones each in its own way. They
still agree about where the sound ones end and about what is wrong there.

Main statement: on any file that is long enough for a header, all four refuse it alike, or
their results follow from each other.
-/

set_option autoImplicit false

namespace FrameLog

/-! ## Checking and reading a file -/

section

variable {file : Bytes} {failure : Failure} {records : List Record} {rest : Bytes}
  {fault : Fault}

theorem verify_of_foreign (settings : Settings) (long : ¬ file.length < FileHeader.size)
    (refused : readFileHeader file = .error failure) : verify settings file = .error failure := by
  rw [verify, if_neg (not_isEmpty_of_long long), refused]

theorem verify_logFile_append {settings : Settings}
    (acceptable : ∀ record ∈ records, record.Acceptable settings.maxPayloadSize)
    (stops : readFrame settings.maxPayloadSize rest = .error fault) :
    verify settings (logFile records ++ rest) = .ok (Scan.mk records fault).report := by
  have occupied : ¬ (logFile records ++ rest).isEmpty = true := Bool.false_ne_true
  rw [verify, if_neg occupied, readFileHeader_logFile_append]
  simp only [scanFile_logFile_append acceptable stops]

theorem Cursor.start_of_foreign (limit : UInt32)
    (refused : readFileHeader file = .error failure) : start limit file = .error failure := by
  simp only [start, refused]

theorem Cursor.start_logFile_append (limit : UInt32) :
    start limit (logFile records ++ rest) = .ok ⟨FileHeader.size, 1, limit⟩ := by
  simp only [start, readFileHeader_logFile_append]

theorem Stream.drains_logFile_append {limit : UInt32}
    (acceptable : ∀ record ∈ records, record.Acceptable limit)
    (stops : readFrame limit rest = .error fault) :
    Drains (logFile records ++ rest) ⟨⟨FileHeader.size, 1, limit⟩, false⟩
      ((numbered 1 records).map .ok ++
        (fault.ending (FileHeader.size + framesSize records)).toList.map .error)
      ⟨⟨FileHeader.size + framesSize records, 1 + records.length, limit⟩, true⟩ :=
  drains_frames acceptable stops 1 (drop_size_logFile records rest)

end

theorem Fault.ending_of_long {limit : UInt32} {rest : Bytes} {fault : Fault}
    (stops : readFrame limit rest = .error fault) (long : ¬ rest.length < FrameHeader.size)
    (offset : Nat) : fault.ending offset = some (fault.failure offset) := by
  rw [(readFrame_eq_iff.mp stops).benign_iff] at long
  cases fault with
  | absent => exact absurd (.inl rfl) long
  | partialHeader | oversized | torn | mismatch => rfl

/-! ## By path -/

namespace Disk

section

variable {disk : Disk} {path : String} {number : FileNumber} {file : Bytes}

theorem verify_of_held (found : disk.lookupFile path = .ok number)
    (held : disk.contents[number]? = some file) (settings : Settings) :
    disk.verify path settings = FrameLog.verify settings file := by
  simp only [verify, found, read_of_getElem? held]

theorem startCursor_of_held (found : disk.lookupFile path = .ok number)
    (held : disk.contents[number]? = some file) (limit : UInt32) :
    disk.startCursor path limit = (Cursor.start limit file).map fun cursor => (cursor, number) := by
  simp only [startCursor, found, read_of_getElem? held]

theorem readStream_of_drains (held : disk.contents[number]? = some file) {limit : UInt32}
    {cursor : Cursor} {items : List (Except Failure Indexed)} {last : Stream}
    (started : disk.startCursor path limit = .ok (cursor, number))
    (drains : Stream.Drains file ⟨cursor, false⟩ items last) :
    disk.readStream path limit = .ok items := by
  simp only [readStream, started, Except.map, read_of_getElem? held, drains.toList]

end

section

variable {disk prepared : Disk} {path : String} {number : FileNumber} {file : Bytes}
  {settings : Settings}

theorem openLog_of_foreign {failure : Failure} (coherent : settings.Coherent)
    (found : disk.prepareFile path = (.ok number, prepared))
    (held : prepared.contents[number]? = some file) (ceiling : Option Nat)
    (long : ¬ file.length < FileHeader.size) (refused : readFileHeader file = .error failure) :
    (disk.openLog path settings ceiling).answer = .error failure := by
  apply (opensAs coherent found held ceiling).refused
  rw [recover_of_foreign ceiling long refused]

variable {records : List Record} {rest : Bytes} {fault : Fault}

theorem openLog_truncate (coherent : settings.Coherent)
    (found : disk.prepareFile path = (.ok number, prepared))
    (held : prepared.contents[number]? = some (logFile records ++ rest)) (ceiling : Option Nat)
    (repairing : settings.tailPolicy = .truncate)
    (acceptable : ∀ record ∈ records, record.Acceptable settings.maxPayloadSize)
    (stops : readFrame settings.maxPayloadSize rest = .error fault) :
    let handle : Handle := .restored path settings records (Scan.mk records fault).report
    let opening := disk.openLog path settings ceiling
    opening.answer = .ok ⟨handle, number⟩ ∧
      ((⟨handle, number⟩ : OpenLog).apply opening.disk Handle.readAll).answer =
        .ok (records.map Record.payload) := by
  intro handle opening
  obtain ⟨standing, _⟩ := List.getElem?_eq_some_iff.mp held
  obtain ⟨opened, kept⟩ := Handle.attach_truncate path ceiling repairing acceptable stops
  have opens : opening = _ := openLog_of_held coherent found held ceiling
  have mirrors := Handle.mirrors_restored_whole path (Scan.mk records fault).report acceptable
  rw [opens, opened, kept]
  refine ⟨rfl, ?_⟩
  rw [OpenLog.apply, read_store standing, mirrors.readAll_eq rfl]

theorem openLog_strict_of_short (coherent : settings.Coherent)
    (found : disk.prepareFile path = (.ok number, prepared))
    (held : prepared.contents[number]? = some (logFile records ++ rest)) (ceiling : Option Nat)
    (strict : settings.tailPolicy = .strict)
    (acceptable : ∀ record ∈ records, record.Acceptable settings.maxPayloadSize)
    (short : rest.length < FrameHeader.size) :
    (disk.openLog path settings ceiling).answer =
      .ok ⟨.restored path settings records (.intact records), number⟩ := by
  obtain ⟨opened, _⟩ := Handle.attach_strict_of_short path ceiling strict acceptable short
  rw [openLog_of_held coherent found held, opened]
  rfl

theorem openLog_strict_of_long (coherent : settings.Coherent)
    (found : disk.prepareFile path = (.ok number, prepared))
    (held : prepared.contents[number]? = some (logFile records ++ rest)) (ceiling : Option Nat)
    (strict : settings.tailPolicy = .strict)
    (acceptable : ∀ record ∈ records, record.Acceptable settings.maxPayloadSize)
    (stops : readFrame settings.maxPayloadSize rest = .error fault)
    (long : ¬ rest.length < FrameHeader.size) :
    (disk.openLog path settings ceiling).answer =
      .error (fault.failure (FileHeader.size + framesSize records)) := by
  obtain ⟨refused, _⟩ :=
    Handle.attach_strict_of_long path ceiling strict acceptable stops long
  rw [openLog_of_held coherent found held, refused]
  rfl

/-- Only the strict policy looks at how much stands behind the sound part. -/
theorem openLog_strict (coherent : settings.Coherent)
    (found : disk.prepareFile path = (.ok number, prepared))
    (held : prepared.contents[number]? = some (logFile records ++ rest)) (ceiling : Option Nat)
    (strict : settings.tailPolicy = .strict)
    (acceptable : ∀ record ∈ records, record.Acceptable settings.maxPayloadSize)
    (stops : readFrame settings.maxPayloadSize rest = .error fault) :
    let answer := (disk.openLog path settings ceiling).answer
    ((∃ other, answer = .ok other) ↔ rest.length < FrameHeader.size) ∧
    (∀ other, answer = .ok other →
      other.handle.positions = ⟨frameOffsets FileHeader.size records⟩ ∧
      other.handle.writeOffset = FileHeader.size + framesSize records) ∧
    ∀ failure, answer = .error failure →
      fault.ending (FileHeader.size + framesSize records) = some failure := by
  intro answer
  by_cases short : rest.length < FrameHeader.size
  · have opened : answer = _ :=
      openLog_strict_of_short coherent found held ceiling strict acceptable short
    rw [opened]
    refine ⟨iff_of_true ⟨_, rfl⟩ short, ?_, ?_⟩
    · intro other answered
      cases answered
      exact ⟨rfl, rfl⟩
    · intro failure answered
      cases answered
  · have refused : answer = _ :=
      openLog_strict_of_long coherent found held ceiling strict acceptable stops short
    rw [refused]
    refine ⟨iff_of_false ?_ short, ?_, ?_⟩
    · rintro ⟨other, answered⟩
      cases answered
    · intro other answered
      cases answered
    · intro failure answered
      cases answered
      exact fault.ending_of_long stops short _

end

section

variable (disk : Disk) (path : String) (settings : Settings) (ceiling : Option Nat)

/-- All four refuse the file at this path, and for the same reason. -/
structure RefusedByAll (detail : Corruption) : Prop where
  repairing : (disk.openLog path { settings with tailPolicy := .truncate } ceiling).answer =
    .error (.corrupted detail)
  strict : (disk.openLog path { settings with tailPolicy := .strict } ceiling).answer =
    .error (.corrupted detail)
  verified : disk.verify path settings = .error (.corrupted detail)
  started : disk.startCursor path settings.maxPayloadSize = .error (.corrupted detail)

/-- Repair opens this log at this path, streaming yields these items and then this ending,
and the others find the same in their ways. -/
structure FoundByAll (number : FileNumber) (file : Bytes) (log : OpenLog)
    (items : List Indexed) (ending : Option Failure) : Prop where
  repaired : (disk.openLog path { settings with tailPolicy := .truncate } ceiling).answer = .ok log
  readBack : (log.apply (disk.openLog path { settings with tailPolicy := .truncate } ceiling).disk
      Handle.readAll).answer = .ok (items.map fun item => item.record.payload)
  within : log.handle.report.validBytes ≤ file.length
  verified : disk.verify path settings = .ok log.handle.report
  streamed : disk.readStream path settings.maxPayloadSize =
    .ok (items.map .ok ++ ending.toList.map .error)
  numbered : items.map Indexed.index = List.range' 1 log.handle.report.recordsRecovered
  /-- The cursor of the stream comes to rest where the sound records end. -/
  stops : ∃ cursor last, disk.startCursor path settings.maxPayloadSize = .ok (cursor, number) ∧
    Stream.Drains file ⟨cursor, false⟩ (items.map .ok ++ ending.toList.map .error) last ∧
    last.cursor.position = log.handle.report.validBytes
  ending_iff : ending.isSome = true ↔ log.handle.report.wasTruncated = true
  strict_iff : (∃ other,
      (disk.openLog path { settings with tailPolicy := .strict } ceiling).answer = .ok other) ↔
    file.length - log.handle.report.validBytes ≤ 8
  strictKeeps : ∀ other,
    (disk.openLog path { settings with tailPolicy := .strict } ceiling).answer = .ok other →
      other.handle.positions = log.handle.positions ∧
      other.handle.writeOffset = log.handle.writeOffset
  strictFails : ∀ failure,
    (disk.openLog path { settings with tailPolicy := .strict } ceiling).answer =
      .error failure → ending = some failure

end

section

variable {disk : Disk} {path : String} {number : FileNumber} {file : Bytes} {settings : Settings}

theorem refusedByAll_of_foreign (coherent : settings.Coherent)
    (found : disk.lookupFile path = .ok number) (held : disk.contents[number]? = some file)
    (long : FileHeader.size ≤ file.length) (foreign : ¬ FileHeader.current.encode <+: file)
    (ceiling : Option Nat) : ∃ detail, disk.RefusedByAll path settings ceiling detail := by
  have prepared := (finds_of_lookupFile found).prepareFile
  have repairable : ({ settings with tailPolicy := .truncate } : Settings).Coherent := coherent
  have guarded : ({ settings with tailPolicy := .strict } : Settings).Coherent := coherent
  obtain ⟨detail, refused⟩ := readFileHeader_of_foreign foreign
  have long := Nat.not_lt.mpr long
  refine ⟨detail, openLog_of_foreign repairable prepared held ceiling long refused,
    openLog_of_foreign guarded prepared held ceiling long refused, ?_, ?_⟩
  · exact (verify_of_held found held settings).trans (verify_of_foreign settings long refused)
  · rw [startCursor_of_held found held, Cursor.start_of_foreign _ refused]
    rfl

variable {records : List Record} {rest : Bytes} {fault : Fault}

theorem foundByAll (coherent : settings.Coherent) (found : disk.lookupFile path = .ok number)
    (held : disk.contents[number]? = some (logFile records ++ rest))
    (acceptable : ∀ record ∈ records, record.Acceptable settings.maxPayloadSize)
    (stops : readFrame settings.maxPayloadSize rest = .error fault) (ceiling : Option Nat) :
    ∃ log, disk.FoundByAll path settings ceiling number (logFile records ++ rest) log
      (numbered 1 records) (fault.ending (FileHeader.size + framesSize records)) := by
  have prepared := (finds_of_lookupFile found).prepareFile
  have repairable : ({ settings with tailPolicy := .truncate } : Settings).Coherent := coherent
  have guarded : ({ settings with tailPolicy := .strict } : Settings).Coherent := coherent
  obtain ⟨answered, reads⟩ :=
    openLog_truncate repairable prepared held ceiling rfl acceptable stops
  have beginning : disk.startCursor path settings.maxPayloadSize =
      .ok (⟨FileHeader.size, 1, settings.maxPayloadSize⟩, number) := by
    rw [startCursor_of_held found held, Cursor.start_logFile_append]
    rfl
  have drains := Stream.drains_logFile_append acceptable stops
  have behind : (logFile records ++ rest).length - (FileHeader.size + framesSize records) ≤ 8 ↔
      rest.length < FrameHeader.size := by
    rw [List.length_append, length_logFile, Nat.add_sub_cancel_left]
    exact Nat.lt_succ_iff.symm
  obtain ⟨accepts, keeps, fails⟩ :=
    openLog_strict guarded prepared held ceiling rfl acceptable stops
  exact ⟨_, {
    repaired := answered
    readBack := by
      rw [map_payload_numbered]
      exact reads
    within := by
      rw [List.length_append, length_logFile]
      exact Nat.le_add_right _ _
    verified := (verify_of_held found held settings).trans
      (verify_logFile_append acceptable stops)
    streamed := readStream_of_drains held beginning drains
    numbered := map_index_numbered 1 records
    stops := ⟨_, _, beginning, drains, rfl⟩
    ending_iff := by
      rw [Fault.isSome_ending]
      exact decide_eq_true_iff.symm
    strict_iff := accepts.trans behind.symm
    strictKeeps := keeps
    strictFails := fails }⟩

end

/-- A file with a foreign header is refused by all four for the same reason. Otherwise
checking reports what repair does; the stream yields the records that repair makes
readable, stops where they end, and then fails just if repair cut something off; the strict
policy accepts the same records unless more stands behind them than a part of a frame
header, and then fails as the stream does. -/
theorem scanners_agree (disk : Disk) (path : String) (number : FileNumber) (file : Bytes)
    (settings : Settings) (ceiling : Option Nat) (coherent : settings.Coherent)
    (found : disk.lookupFile path = .ok number) (held : disk.contents[number]? = some file)
    (long : FileHeader.size ≤ file.length) :
    (¬ FileHeader.current.encode <+: file →
      ∃ detail, disk.RefusedByAll path settings ceiling detail) ∧
    (FileHeader.current.encode <+: file →
      ∃ log items ending, disk.FoundByAll path settings ceiling number file log items ending) := by
  constructor
  · intro foreign
    exact refusedByAll_of_foreign coherent found held long foreign ceiling
  · intro headed
    obtain ⟨records, rest, fault, rfl, parted, stops⟩ :=
      exists_logFile_append settings.maxPayloadSize headed
    obtain ⟨log, agreed⟩ := foundByAll coherent found held parted.acceptable stops ceiling
    exact ⟨log, _, _, agreed⟩

/-- One file ends in a record whose payload breaks off, the other starts with no header. -/
theorem scanners_agree_on_torn_record :
    let rest : Bytes := [1, 0, 0, 0, 9, 0, 0, 0, 0, 7]
    let disk : Disk :=
      { names := [(["one.wal"], 0), (["two.wal"], 1)]
        contents := [logFile [.ofPayload [1, 2]] ++ rest, [0, 0, 0, 0, 0, 0, 0, 0]] }
    (∃ (log : OpenLog) (items : List Indexed) (failure : Failure),
      (disk.openLog "one.wal" {} none).answer = .ok log ∧
      disk.verify "one.wal" {} = .ok log.handle.report ∧
      (disk.openLog "one.wal" { tailPolicy := .strict } none).answer = .error failure ∧
      disk.readStream "one.wal" ({} : Settings).maxPayloadSize =
        .ok (items.map .ok ++ [.error failure])) ∧
    ∃ detail,
      (disk.openLog "two.wal" {} none).answer = .error (.corrupted detail) ∧
      disk.verify "two.wal" {} = .error (.corrupted detail) := by
  intro rest disk
  have coherent : ({} : Settings).Coherent := by decide
  have acceptable : ∀ record ∈ [Record.ofPayload [1, 2]],
      record.Acceptable ({} : Settings).maxPayloadSize := by
    intro record member
    rw [List.mem_singleton.mp member]
    exact Record.acceptable_ofPayload (by decide)
  have stops : readFrame ({} : Settings).maxPayloadSize rest = .error (.torn 9 1) := rfl
  obtain ⟨_, agree⟩ :=
    scanners_agree disk "one.wal" 0 _ {} none coherent rfl rfl (by decide +kernel)
  obtain ⟨refuse, _⟩ :=
    scanners_agree disk "two.wal" 1 _ {} none coherent rfl rfl (by decide +kernel)
  obtain ⟨log, items, ending, agreed⟩ := agree (by decide +kernel)
  have guarded : ({ tailPolicy := .strict } : Settings).Coherent := coherent
  have prepared : disk.prepareFile "one.wal" = (.ok 0, disk) := rfl
  have refused := openLog_strict_of_long guarded prepared rfl none rfl acceptable stops (by decide)
  have streamed := agreed.streamed
  rw [agreed.strictFails _ refused] at streamed
  obtain ⟨detail, refusal⟩ := refuse (by decide +kernel)
  exact ⟨⟨log, items, _, agreed.repaired, agreed.verified, refused, streamed⟩, detail,
    refusal.repairing, refusal.verified⟩

end Disk

end FrameLog
