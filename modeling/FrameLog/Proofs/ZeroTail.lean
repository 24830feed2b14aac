import FrameLog.Proofs.MonotoneRecovery
import FrameLog.Proofs.ScannersAgree

/-!
# Zeros behind a log

A file system that sets room aside leaves zeros behind the octets that were written. Nine
zeros have the form of a whole frame, that of a record with tag zero and no payload, and
under every limit nothing but its checksum tells it from a record: the checksum of that
record is not zero. Fewer zeros are a part of a frame header.

Main statement: however many zeros follow a log, they are never taken for records.
-/

set_option autoImplicit false

namespace FrameLog

def zeros (count : Nat) : Bytes := List.replicate count 0

/-! ## What zeros are read as -/

@[simp] theorem length_zeros (count : Nat) : (zeros count).length = count :=
  List.length_replicate

theorem zeros_short_iff {count : Nat} : (zeros count).length < FrameHeader.size ↔ count ≤ 8 := by
  rw [length_zeros]
  exact Nat.lt_succ_iff

theorem zeros_add (count more : Nat) : zeros (count + more) = zeros count ++ zeros more :=
  (List.replicate_append_replicate).symm

def zeroRecord : Record := ⟨0, [], 0⟩

theorem encode_zeroRecord : zeroRecord.encode = zeros FrameHeader.size := rfl

/-- This alone keeps zeros from being records. -/
theorem not_sound_zeroRecord : ¬ zeroRecord.Sound := by
  decide +kernel

def zerosFault (count : Nat) : Fault :=
  if FrameHeader.size ≤ count then .mismatch 0 (frameChecksum 0 []) else .partialHeader count

theorem zerosFault_ne_absent (count : Nat) : zerosFault count ≠ .absent := by
  unfold zerosFault
  split
  · exact Fault.noConfusion
  · exact Fault.noConfusion

theorem readFrame_zeros (limit : UInt32) {count : Nat} (positive : 1 ≤ count) :
    readFrame limit (zeros count) = .error (zerosFault count) := by
  unfold zerosFault
  split
  · next whole =>
      obtain ⟨more, rfl⟩ := Nat.exists_eq_add_of_le whole
      have within : zeroRecord.payload.length ≤ limit.toNat := Nat.zero_le _
      rw [zeros_add, ← encode_zeroRecord, readFrame_whole within, if_neg not_sound_zeroRecord]
      rfl
  · next few =>
      have nonempty : zeros count ≠ [] := by
        rw [← List.length_pos_iff, length_zeros]
        exact positive
      have short : (zeros count).length < FrameHeader.size :=
        zeros_short_iff.mpr (Nat.lt_succ_iff.mp (Nat.lt_of_not_le few))
      rw [readFrame_short nonempty short, length_zeros]

/-! ## Logs with zeros behind them -/

def Report.cutZeros (records : List Record) (count : Nat) : Report where
  recordsRecovered := records.length
  recordsCorrupted := if 9 ≤ count then 1 else 0
  lastIndex := records.length
  wasTruncated := true
  validBytes := (logFile records).length

theorem Scan.report_zeros (records : List Record) (count : Nat) :
    (Scan.mk records (zerosFault count)).report = .cutZeros records count := by
  have mismatch : (zerosFault count).isMismatch = decide (9 ≤ count) := by
    unfold zerosFault
    split
    · next whole => exact (decide_eq_true whole).symm
    · next few => exact (decide_eq_false few).symm
  have corrupted : (if (zerosFault count).isMismatch then 1 else 0 : Nat) =
      if 9 ≤ count then 1 else 0 := by
    simp only [mismatch, decide_eq_true_eq]
  have truncated : decide (zerosFault count ≠ .absent) = true :=
    decide_eq_true (zerosFault_ne_absent count)
  simp only [Scan.report, Report.cutZeros, corrupted, truncated, Scan.soundEnd, length_logFile]

section

variable {settings : Settings} {records : List Record} {count : Nat}

theorem Handle.attach_zeros_truncate (path : String) (ceiling : Option Nat)
    (repairing : settings.tailPolicy = .truncate)
    (acceptable : ∀ record ∈ records, record.Acceptable settings.maxPayloadSize)
    (positive : 1 ≤ count) :
    (attach path settings ceiling (logFile records ++ zeros count)).answer =
        .ok (restored path settings records (.cutZeros records count)) ∧
      (attach path settings ceiling (logFile records ++ zeros count)).file =
        logFile records := by
  have attached := attach_truncate path ceiling repairing acceptable
    (readFrame_zeros settings.maxPayloadSize positive)
  rwa [Scan.report_zeros] at attached

theorem Handle.attach_zeros_strict_of_few (path : String) (ceiling : Option Nat)
    (strict : settings.tailPolicy = .strict)
    (acceptable : ∀ record ∈ records, record.Acceptable settings.maxPayloadSize)
    (few : count ≤ 8) :
    (attach path settings ceiling (logFile records ++ zeros count)).answer =
        .ok (restored path settings records (.intact records)) ∧
      (attach path settings ceiling (logFile records ++ zeros count)).file =
        logFile records ++ zeros count :=
  attach_strict_of_short path ceiling strict acceptable (zeros_short_iff.mpr few)

theorem Handle.attach_zeros_strict_of_many (path : String) (ceiling : Option Nat)
    (strict : settings.tailPolicy = .strict)
    (acceptable : ∀ record ∈ records, record.Acceptable settings.maxPayloadSize)
    (many : 9 ≤ count) :
    (attach path settings ceiling (logFile records ++ zeros count)).answer =
        .error (.checksumMismatch (logFile records).length 0 (frameChecksum 0 [])) ∧
      (attach path settings ceiling (logFile records ++ zeros count)).file =
        logFile records ++ zeros count := by
  have long : ¬ (zeros count).length < FrameHeader.size := by
    rw [zeros_short_iff]
    exact Nat.not_le.mpr many
  have stops := readFrame_zeros settings.maxPayloadSize (Nat.le_trans (by decide) many)
  have attached := attach_strict_of_long path ceiling strict acceptable stops long
  rwa [show zerosFault count = _ from if_pos many, ← length_logFile] at attached

end

/-- However many zeros stand behind a log, repair recovers its records and cuts the file
back to it; nine zeros or more count as one corrupted record. The strict policy refuses just
those, and leaves the file alone. A stream yields the records, then one failure. -/
theorem zeros_are_never_records (path : String) (limit : UInt32) (records : List Record)
    (acceptable : ∀ record ∈ records, record.Acceptable limit) (count : Nat)
    (positive : 1 ≤ count) :
    let log := logFile records
    let file := log ++ zeros count
    let found := Located.inRow FileHeader.size records
    (∀ (settings : Settings) ceiling, settings.maxPayloadSize = limit →
      settings.tailPolicy = .truncate →
      ∃ handle, (Handle.attach path settings ceiling file).answer = .ok handle ∧
        (Handle.attach path settings ceiling file).file = log ∧
        handle.Knows log found ∧
        (handle.readAll log).answer = .ok (records.map Record.payload) ∧
        handle.report.wasTruncated = true ∧
        handle.report.recordsCorrupted = (if 9 ≤ count then 1 else 0) ∧
        handle.counters = { corruptions := if 9 ≤ count then 1 else 0 }) ∧
    (∀ (settings : Settings) ceiling, settings.maxPayloadSize = limit →
      settings.tailPolicy = .strict →
      (Handle.attach path settings ceiling file).file = file ∧
      (9 ≤ count → (Handle.attach path settings ceiling file).answer =
        .error (.checksumMismatch log.length 0 (frameChecksum 0 []))) ∧
      (count ≤ 8 → ∃ handle,
        (Handle.attach path settings ceiling file).answer = .ok handle ∧
        handle.Knows file found ∧
        (handle.readAll file).answer = .ok (records.map Record.payload))) ∧
    ∃ cursor failure, Cursor.start limit file = .ok cursor ∧
      Stream.toList ⟨cursor, false⟩ file = (numbered 1 records).map .ok ++ [.error failure] ∧
      failure.isCorruption = true := by
  intro log file found
  refine ⟨?_, ?_, ?_⟩
  · rintro settings ceiling rfl repairing
    obtain ⟨opened, kept⟩ :=
      Handle.attach_zeros_truncate path ceiling repairing acceptable positive
    have nothing : ([] : Bytes).length < FrameHeader.size := Nat.zero_lt_succ _
    have knows := Handle.knows_restored path (.cutZeros records count) acceptable nothing rfl rfl
      (length_logFile records)
    have mirrors := Handle.mirrors_restored_whole path (.cutZeros records count) acceptable
    rw [List.append_nil] at knows
    refine ⟨_, opened, kept, knows, ?_, rfl, rfl, rfl⟩
    rw [mirrors.readAll_eq rfl]
  · rintro settings ceiling rfl strict
    by_cases many : 9 ≤ count
    · obtain ⟨refused, kept⟩ :=
        Handle.attach_zeros_strict_of_many path ceiling strict acceptable many
      exact ⟨kept, fun _ => refused, fun few => absurd many (Nat.not_le.mpr (by omega))⟩
    · have few : count ≤ 8 := by omega
      have short := zeros_short_iff.mpr few
      obtain ⟨opened, kept⟩ :=
        Handle.attach_zeros_strict_of_few path ceiling strict acceptable few
      have knows := Handle.knows_restored path (.intact records) acceptable short rfl rfl rfl
      have mirrors := Handle.mirrors_restored path (.intact records) acceptable short
      refine ⟨kept, fun whole => absurd whole many, fun _ => ⟨_, opened, knows, ?_⟩⟩
      rw [mirrors.readAll_eq rfl]
  · have drains := Stream.drains_logFile_append acceptable (readFrame_zeros limit positive)
    have started : Cursor.start limit file = _ := Cursor.start_logFile_append limit
    have ending : ∃ failure, (zerosFault count).ending (FileHeader.size + framesSize records) =
        some failure ∧ failure.isCorruption = true := by
      unfold zerosFault
      split
      · exact ⟨_, rfl, rfl⟩
      · exact ⟨_, rfl, rfl⟩
    obtain ⟨failure, ends, corruption⟩ := ending
    rw [ends] at drains
    exact ⟨_, failure, started, drains.toList, corruption⟩

/-- The last record has no payload and tag zero, so that its frame differs from the zeros
behind it in its checksum alone. Eight zeros more or less decide what the strict policy
does. -/
theorem zeros_are_never_records_behind_empty_payload :
    let records : List Record := [.ofPayload [1, 2], ⟨0, [], frameChecksum 0 []⟩]
    ∃ repaired opened,
      (Handle.attach "log.wal" {} none (logFile records ++ zeros 16)).answer = .ok repaired ∧
      (Handle.attach "log.wal" {} none (logFile records ++ zeros 16)).file = logFile records ∧
      repaired.lastIndex = 2 ∧ repaired.report.recordsCorrupted = 1 ∧
      (Handle.attach "log.wal" { tailPolicy := .strict } none
        (logFile records ++ zeros 16)).answer =
          .error (.checksumMismatch 28 0 (frameChecksum 0 [])) ∧
      (Handle.attach "log.wal" { tailPolicy := .strict } none
        (logFile records ++ zeros 8)).answer = .ok opened ∧
      opened.lastIndex = 2 := by
  intro records
  have acceptable : ∀ record ∈ records, record.Acceptable ({} : Settings).maxPayloadSize := by
    intro record member
    rcases List.mem_cons.mp member with rfl | member
    · exact Record.acceptable_ofPayload (by decide)
    · rw [List.mem_singleton.mp member]
      exact ⟨by decide, Record.sound_of_frameChecksum 0 []⟩
  obtain ⟨repairs, refuses, _⟩ :=
    zeros_are_never_records "log.wal" _ records acceptable 16 (by decide)
  obtain ⟨_, opens, _⟩ := zeros_are_never_records "log.wal" _ records acceptable 8 (by decide)
  obtain ⟨repaired, answered, after, knows, _, _, corrupted, _⟩ := repairs {} none rfl rfl
  obtain ⟨_, refused, _⟩ := refuses { tailPolicy := .strict } none rfl rfl
  obtain ⟨_, _, accepted⟩ := opens { tailPolicy := .strict } none rfl rfl
  obtain ⟨opened, stands, knowsToo, _⟩ := accepted (by decide)
  exact ⟨repaired, opened, answered, after, knows.lastIndex, corrupted, refused (by decide),
    stands, knowsToo.lastIndex⟩

end FrameLog
