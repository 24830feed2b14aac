import FrameLog.Proofs.Recovery

/-!
# The longest sound part of a file

There is one way only to take the octets behind a header apart into acceptable frames and a
rest that does not begin with another one. Repair finds it, and says what it found: where
the records start, what they hold, whether anything was cut off and whether that was a
frame with a wrong checksum.
-/

set_option autoImplicit false

namespace FrameLog

/-- The octets begin with a whole frame within the limit whose checksum is wrong. -/
def BeginsWithMismatch (limit : UInt32) (octets : Bytes) : Prop :=
  ∃ record : Record, record.payload.length ≤ limit.toNat ∧ ¬ record.Sound ∧
    record.encode <+: octets

theorem isMismatch_iff_beginsWithMismatch {limit : UInt32} {octets : Bytes} {fault : Fault}
    (stops : readFrame limit octets = .error fault) :
    fault.isMismatch = true ↔ BeginsWithMismatch limit octets := by
  constructor
  · intro mismatch
    cases fault with
    | mismatch stored computed =>
        obtain ⟨record, within, unsound, begins, _⟩ := readFrame_eq_mismatch_iff.mp stops
        exact ⟨record, within, unsound, begins⟩
    | absent | partialHeader | oversized | torn => cases mismatch
  · rintro ⟨record, within, unsound, begins⟩
    rw [readFrame_eq_mismatch_iff.mpr ⟨record, within, unsound, begins, rfl, rfl⟩] at stops
    cases stops
    rfl

/-- Repair takes a file apart in the only way there is, and keeps just the header and the
sound records, in the file and in the handle. -/
theorem attach_keeps_longest_sound_part (path : String) (settings : Settings)
    (ceiling : Option Nat) (file : Bytes) (headed : FileHeader.current.encode <+: file)
    (repairing : settings.tailPolicy = .truncate) :
    ∃ records rest,
      file = logFile records ++ rest ∧
      Parted settings.maxPayloadSize (file.drop FileHeader.size) records rest ∧
      (∀ others other,
        Parted settings.maxPayloadSize (file.drop FileHeader.size) others other →
          others = records ∧ other = rest) ∧
      ∃ handle,
        (Handle.attach path settings ceiling file).answer = .ok handle ∧
        (Handle.attach path settings ceiling file).file = logFile records ∧
        handle.lastIndex = records.length ∧
        (∀ before < records.length, handle.positions.offsetOf? (before + 1) =
          some (FileHeader.size + framesSize (records.take before))) ∧
        (handle.readAll (logFile records)).answer = .ok (records.map Record.payload) ∧
        handle.writeOffset = FileHeader.size + framesSize records ∧
        handle.writeOffset ≤ file.length ∧
        handle.report.validBytes = handle.writeOffset ∧
        handle.report.recordsRecovered = records.length ∧
        handle.report.lastIndex = records.length ∧
        (handle.report.wasTruncated = true ↔ rest ≠ []) ∧
        (BeginsWithMismatch settings.maxPayloadSize rest →
          handle.report.recordsCorrupted = 1) ∧
        (¬ BeginsWithMismatch settings.maxPayloadSize rest →
          handle.report.recordsCorrupted = 0) := by
  obtain ⟨records, rest, fault, whole, parted, stops⟩ :=
    exists_logFile_append settings.maxPayloadSize headed
  refine ⟨records, rest, whole, parted, fun others other again => parted.unique again, ?_⟩
  obtain ⟨opened, kept⟩ : (Handle.attach path settings ceiling file).answer =
      .ok (.restored path settings records (Scan.mk records fault).report) ∧
      (Handle.attach path settings ceiling file).file = logFile records := by
    rw [whole]
    exact Handle.attach_truncate path ceiling repairing parted.acceptable stops
  have mirrors := Handle.mirrors_restored_whole path (Scan.mk records fault).report
    parted.acceptable
  have mismatches := isMismatch_iff_beginsWithMismatch stops
  refine ⟨_, opened, kept, mirrors.length_eq, ?_, ?_, rfl, ?_, rfl, rfl, rfl, ?_, ?_, ?_⟩
  · intro before present
    exact mirrors.offsetOf?_eq (by omega) (by omega)
  · rw [mirrors.readAll_eq rfl]
  · rw [whole, List.length_append, length_logFile]
    exact Nat.le_add_right _ _
  · change decide (fault ≠ .absent) = true ↔ rest ≠ []
    rw [decide_eq_true_iff]
    apply not_congr
    rw [← readFrame_eq_absent_iff, stops]
    simp
  · intro begins
    exact if_pos (mismatches.mpr begins)
  · intro otherwise
    exact if_neg fun mismatch => otherwise (mismatches.mp mismatch)

/-- One record and, behind it, a frame without payload whose checksum is wrong. -/
theorem attach_keeps_record_before_mismatch :
    ∃ (rest : Bytes) (handle : Handle),
      rest = [1, 0, 0, 0, 0, 0, 0, 0, 0] ∧
      (Handle.attach "log.wal" {} none (logFile [.ofPayload [1, 2]] ++ rest)).answer =
        .ok handle ∧
      handle.lastIndex = 1 ∧ handle.report.recordsCorrupted = 1 := by
  have unsound : ¬ (⟨1, [], 0⟩ : Record).Sound := by decide +kernel
  have stops : readFrame ({} : Settings).maxPayloadSize (Record.encode ⟨1, [], 0⟩) =
      .error (.mismatch 0 (frameChecksum 1 [])) :=
    readFrame_eq_mismatch_iff.mpr
      ⟨⟨1, [], 0⟩, Nat.zero_le _, unsound, List.prefix_refl _, rfl, rfl⟩
  have parted : Parted ({} : Settings).maxPayloadSize
      ((logFile [.ofPayload [1, 2]] ++ Record.encode ⟨1, [], 0⟩).drop FileHeader.size)
      [.ofPayload [1, 2]] (Record.encode ⟨1, [], 0⟩) := by
    refine ⟨drop_size_logFile _ _, ?_, ?_⟩
    · intro record member
      rw [List.mem_singleton.mp member]
      exact Record.acceptable_ofPayload (by decide)
    · intro record acceptable begins
      rw [readFrame_eq_ok_iff_begins.mpr ⟨acceptable, begins⟩] at stops
      cases stops
  have headed : FileHeader.current.encode <+:
      logFile [.ofPayload [1, 2]] ++ Record.encode ⟨1, [], 0⟩ := by
    rw [logFile, List.append_assoc]
    exact List.prefix_append _ _
  obtain ⟨records, rest, _, _, only, handle, opened, _, last, _, _, _, _, _, _, _, _,
    mismatched, _⟩ := attach_keeps_longest_sound_part "log.wal" {} none _ headed rfl
  obtain ⟨rfl, rfl⟩ := only _ _ parted
  exact ⟨_, handle, rfl, opened, last,
    mismatched ⟨_, Nat.zero_le _, unsound, List.prefix_refl _⟩⟩

end FrameLog
