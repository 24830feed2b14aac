import FrameLog.Proofs.UndisturbedRun

/-!
# Losing power during an append

A crash may leave any leading piece of a new frame in the file, and of that file again any
leading part. What stands behind the whole frames is then unfinished: a torn frame, or
fewer octets than a frame header needs, old and new ones mixed. No checksum is involved.

Main statement: repair opens whatever a crash leaves, with exactly the records whose frames
survived as a whole.
-/

set_option autoImplicit false

namespace FrameLog

open PlainLog (Permits)

/-- The file when only so many octets of the frame of a new record have reached it. -/
def Handle.inFlight (handle : Handle) (file payload : Bytes) (written : Nat) : Bytes :=
  file.overlay handle.writeOffset ((Record.ofPayload payload).encode.take written)

/-- The records that are in the file then: the new one only if its frame was written whole. -/
def landed (records : List Record) (payload : Bytes) (written : Nat) : List Record :=
  if written < (Record.ofPayload payload).frameSize then records
  else records ++ [.ofPayload payload]

/-- The records kept are the leading ones whose frames end at or before the cut. -/
structure WholeBefore (cut : Nat) (records kept : List Record) : Prop where
  leading : kept <+: records
  ends : ∀ before < records.length,
    before < kept.length ↔ FileHeader.size + framesSize (records.take (before + 1)) ≤ cut

theorem WholeBefore.eq_nil {cut : Nat} {records kept : List Record}
    (whole : WholeBefore cut records kept) (headless : cut < FileHeader.size) : kept = [] := by
  cases kept with
  | nil => rfl
  | cons first later =>
      have counted := whole.leading.length_le
      rw [List.length_cons] at counted
      have ends := (whole.ends 0 (by omega)).mp (Nat.zero_lt_succ _)
      omega

section

variable {handle : Handle} {file dangling : Bytes} {records : List Record}

/-! ## What a crash leaves -/

theorem Handle.Mirrors.inFlight_eq (mirrors : handle.Mirrors file records dangling)
    (payload : Bytes) (within : payload.length ≤ handle.settings.maxPayloadSize.toNat)
    (written : Nat) :
    ∃ behind, handle.inFlight file payload written =
        logFile (landed records payload written) ++ behind ∧
      Unfinished handle.settings.maxPayloadSize behind := by
  have short := mirrors.short
  have long := (Record.ofPayload payload).size_le_frameSize
  have laid : handle.inFlight file payload written = logFile records ++
      ((Record.ofPayload payload).encode.take written ++
        dangling.drop ((Record.ofPayload payload).encode.take written).length) := by
    rw [inFlight, ← mirrors.logFile_length, mirrors.contents, Bytes.overlay_append]
  have length : ((Record.ofPayload payload).encode.take written).length =
      min written (Record.ofPayload payload).frameSize := by
    rw [List.length_take, Record.length_encode]
  by_cases broken : written < (Record.ofPayload payload).frameSize
  · rw [landed, if_pos broken]
    refine ⟨_, laid, ?_⟩
    by_cases headless : written < FrameHeader.size
    · apply unfinished_of_short
      rw [List.length_append, List.length_drop, length]
      omega
    · rw [List.drop_eq_nil_of_le (by omega), List.append_nil]
      exact unfinished_take_encode within broken
  · rw [landed, if_neg broken]
    refine ⟨[], ?_, unfinished_of_short _ (Nat.zero_lt_succ _)⟩
    rw [laid, List.drop_eq_nil_of_le (by omega),
      List.take_of_length_le (by rw [Record.length_encode]; omega), logFile_append]
    simp [frames]

theorem landed_acceptable {limit : UInt32}
    (acceptable : ∀ record ∈ records, record.Acceptable limit) (payload : Bytes)
    (within : payload.length ≤ limit.toNat) (written : Nat) :
    ∀ record ∈ landed records payload written, record.Acceptable limit := by
  intro record member
  rw [landed] at member
  split at member
  · exact acceptable record member
  · rcases List.mem_append.mp member with older | newest
    · exact acceptable record older
    · rw [List.mem_singleton.mp newest]
      exact Record.acceptable_ofPayload within

/-! ## Opening what survives of a log -/

variable {settings : Settings}

theorem Handle.attach_truncate_torn_header (path : String)
    (repairing : settings.tailPolicy = .truncate) {ceiling : Option Nat} {cut : Nat}
    (short : cut < FileHeader.size) (permitted : Permits ceiling FileHeader.size) :
    ∃ report : Report,
      (attach path settings ceiling (FileHeader.current.encode.take cut)).answer =
        .ok (restored path settings [] report) ∧
      (attach path settings ceiling (FileHeader.current.encode.take cut)).file = logFile [] ∧
      report.recordsRecovered = 0 ∧ report.recordsCorrupted = 0 := by
  have length : (FileHeader.current.encode.take cut).length = cut := by
    rw [List.length_take, FileHeader.length_encode]
    omega
  have shorter : (FileHeader.current.encode.take cut).length < FileHeader.size := by omega
  obtain ⟨wasTruncated, events, started⟩ : ∃ wasTruncated events,
      recover settings ceiling (FileHeader.current.encode.take cut) =
        startLog ceiling (FileHeader.current.encode.take cut) wasTruncated events := by
    by_cases empty : FileHeader.current.encode.take cut = []
    · rw [empty]
      exact ⟨_, _, recover_nil settings ceiling⟩
    · have torn : TornHeader settings (FileHeader.current.encode.take cut) :=
        ⟨by rw [length], repairing⟩
      exact ⟨_, _, recover_of_torn ceiling empty shorter torn⟩
  rw [startLog_of_permits shorter permitted] at started
  obtain ⟨opened, kept⟩ := attach_of_ok path (congrArg Attachment.answer started)
  exact ⟨_, opened, kept.trans (congrArg Attachment.file started), rfl, rfl⟩

/-- Any leading part of a log with an unfinished rest is opened. Room for a header is needed
only if the cut took the header. -/
theorem Handle.attach_truncate_take {rest : Bytes} (path : String) (ceiling : Option Nat)
    (repairing : settings.tailPolicy = .truncate)
    (acceptable : ∀ record ∈ records, record.Acceptable settings.maxPayloadSize)
    (unfinished : Unfinished settings.maxPayloadSize rest) (cut : Nat)
    (room : cut < FileHeader.size → Permits ceiling FileHeader.size) :
    ∃ (kept : List Record) (report : Report),
      WholeBefore cut records kept ∧
      (attach path settings ceiling ((logFile records ++ rest).take cut)).answer =
        .ok (restored path settings kept report) ∧
      (attach path settings ceiling ((logFile records ++ rest).take cut)).file =
        logFile kept ∧
      report.recordsRecovered = kept.length ∧ report.recordsCorrupted = 0 := by
  rw [logFile, List.append_assoc]
  by_cases headless : cut < FileHeader.size
  · rw [List.take_append_of_le_length (by rw [FileHeader.length_encode]; omega)]
    obtain ⟨report, opened, after, recovered, corrupted⟩ :=
      attach_truncate_torn_header path repairing headless (room headless)
    refine ⟨[], report, ⟨List.nil_prefix, ?_⟩, opened, after, recovered, corrupted⟩
    intro before present
    rw [List.length_nil]
    omega
  · obtain ⟨kept, behind, survives, stillUnfinished, leading, ends⟩ :=
      take_frames acceptable unfinished (cut - FileHeader.size)
    obtain ⟨fault, stops, matching⟩ := stillUnfinished behind.length
    rw [List.take_length] at stops
    have whole : (FileHeader.current.encode ++ (frames records ++ rest)).take cut =
        logFile kept ++ behind := by
      rw [List.take_append, FileHeader.length_encode, survives,
        List.take_of_length_le (by rw [FileHeader.length_encode]; omega), logFile,
        List.append_assoc]
    obtain ⟨opened, after⟩ := attach_truncate path ceiling repairing
      (fun record member => acceptable record (leading.subset member)) stops
    rw [whole]
    refine ⟨kept, (Scan.mk kept fault).report, ⟨leading, ?_⟩, opened, after, rfl, ?_⟩
    · intro before present
      rw [ends before present]
      omega
    · change (if fault.isMismatch = true then 1 else 0) = 0
      rw [if_neg (by rw [matching]; exact Bool.false_ne_true)]

end

/-- After any run that nothing disturbs, an append may be interrupted after any number of
octets and the file cut anywhere: repair recovers the records whose frames are whole. -/
theorem attach_recovers_whole_frames (path : String) (settings : Settings)
    (openingCeiling : Option Nat) (file : Bytes) (handle : Handle)
    (opened : (Handle.attach path settings openingCeiling file).answer = .ok handle)
    (steps : List (Option Nat × Request)) :
    let run := handle.runAlone (Handle.attach path settings openingCeiling file).file steps
    ∃ records,
      run.handle.positions.offsets.map (readFrameAt settings.maxPayloadSize run.file) =
        records.map .ok ∧
      ∀ (payload : Bytes) (written cut : Nat) (repair : Settings) (ceiling : Option Nat),
        payload.length ≤ settings.maxPayloadSize.toNat →
        repair.maxPayloadSize = settings.maxPayloadSize →
        repair.tailPolicy = .truncate →
        (cut < FileHeader.size → Permits ceiling FileHeader.size) →
        let crashed := (run.handle.inFlight run.file payload written).take cut
        ∃ (kept : List Record) (reopened : Handle),
          WholeBefore cut (landed records payload written) kept ∧
          (Handle.attach path repair ceiling crashed).answer = .ok reopened ∧
          (Handle.attach path repair ceiling crashed).file = logFile kept ∧
          reopened.positions.offsets = frameOffsets FileHeader.size kept ∧
          (reopened.readAll (logFile kept)).answer = .ok (kept.map Record.payload) ∧
          reopened.report.recordsRecovered = kept.length ∧
          reopened.report.recordsCorrupted = 0 ∧
          (cut < FileHeader.size → kept = []) := by
  intro run
  obtain ⟨openedWith, _, _, _, mirrors, _⟩ := Handle.attach_eq_ok opened
  obtain ⟨settingsKept, records, behind, mirrored, _⟩ := mirrors.runAlone steps
  have runsWith : run.handle.settings = settings := settingsKept.trans openedWith
  have held : run.handle.positions.offsets.map (readFrameAt settings.maxPayloadSize run.file) =
      records.map .ok := by
    rw [← runsWith]
    exact mirrored.map_readFrameAt
  refine ⟨records, held, ?_⟩
  intro payload written cut repair ceiling within sameLimit repairing room crashed
  have fits : payload.length ≤ run.handle.settings.maxPayloadSize.toNat := by rwa [runsWith]
  obtain ⟨rest, flying, unfinished⟩ := mirrored.inFlight_eq payload fits written
  have acceptable := landed_acceptable mirrored.acceptable payload fits written
  rw [runsWith, ← sameLimit] at acceptable unfinished
  have cutLog : crashed = (logFile (landed records payload written) ++ rest).take cut :=
    congrArg (List.take cut) flying
  obtain ⟨kept, report, survived, answered, after, recovered, corrupted⟩ :=
    Handle.attach_truncate_take path ceiling repairing acceptable unfinished cut room
  rw [← cutLog] at answered after
  have reread := Handle.mirrors_restored_whole path report
    (fun record member => acceptable record (survived.leading.subset member))
  refine ⟨kept, _, survived, answered, after, rfl, ?_, recovered, corrupted, survived.eq_nil⟩
  rw [reread.readAll_eq rfl]

/-- Three octets stood behind one record, and four octets of a new frame cover them. -/
theorem attach_recovers_whole_frames_over_dangling :
    ∃ (dangling : Bytes) (handle reopened : Handle),
      dangling = [1, 0, 0] ∧
      (Handle.attach "log.wal" { tailPolicy := .strict } none
        (logFile [.ofPayload [1, 2]] ++ dangling)).answer = .ok handle ∧
      (Handle.attach "log.wal" {} none
        ((handle.inFlight (logFile [.ofPayload [1, 2]] ++ dangling) [3] 4).take 23)).answer =
          .ok reopened ∧
      reopened.report.recordsRecovered = 1 ∧ reopened.report.recordsCorrupted = 0 := by
  have acceptable : ∀ record ∈ [Record.ofPayload [1, 2]],
      record.Acceptable ({ tailPolicy := .strict } : Settings).maxPayloadSize := by
    intro record member
    rw [List.mem_singleton.mp member]
    exact Record.acceptable_ofPayload (by decide)
  have short : ([1, 0, 0] : Bytes).length < FrameHeader.size := by decide
  obtain ⟨opened, untouched⟩ :=
    Handle.attach_strict_of_short "log.wal" none rfl acceptable short
  have mirrors := Handle.mirrors_restored "log.wal" (.intact [.ofPayload [1, 2]]) acceptable short
  obtain ⟨records, held, recovers⟩ := attach_recovers_whole_frames _ _ _ _ _ opened []
  rw [untouched] at held recovers
  have same : records = [.ofPayload [1, 2]] :=
    (List.map_inj_right fun _ _ => Except.ok.inj).mp (held.symm.trans mirrors.map_readFrameAt)
  subst same
  obtain ⟨kept, reopened, survived, answered, _, _, _, recovered, corrupted, _⟩ :=
    recovers [3] 4 23 {} none (by decide) rfl rfl (by decide)
  have one : kept.length = 1 := by
    have most : kept.length ≤ 1 := survived.leading.length_le
    have least : 0 < kept.length := (survived.ends 0 (by decide)).mpr (by decide)
    omega
  exact ⟨_, _, reopened, rfl, opened, answered, recovered.trans one, corrupted⟩

end FrameLog
