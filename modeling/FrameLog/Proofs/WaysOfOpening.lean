import FrameLog.Proofs.FoundFile
import FrameLog.Proofs.Recovery

/-!
# The ways of opening a file

What becomes of a file that is opened depends on how much of a header it has. One that is
empty, or is a broken header under a policy that mends it, is made an empty log. One that
starts with anything else is refused. One that starts with a whole header is scanned, and
the policy decides about what stands behind its records.

Main statement: opening accepts just the files that it may repair, and whatever it refuses
it leaves as it was found.
-/

set_option autoImplicit false

namespace FrameLog

open PlainLog (Permits)

/-! ## What each way leaves of the file -/

theorem settleTail_strict_file (file : Bytes) (scanned : Scan) :
    (settleTail .strict file scanned).file = file := by
  rcases scanned with ⟨records, fault⟩
  cases fault with
  | absent | partialHeader | oversized | torn | mismatch => rfl

theorem settleTail_file_of_error {policy : TailPolicy} {file : Bytes} {scanned : Scan}
    {failure : Failure} (refused : (settleTail policy file scanned).answer = .error failure) :
    (settleTail policy file scanned).file = file := by
  cases policy with
  | strict => exact settleTail_strict_file file scanned
  | truncate =>
      rcases scanned with ⟨records, fault⟩
      cases fault with
      | absent | partialHeader | oversized | torn | mismatch => cases refused

theorem startLog_eq_error {ceiling : Option Nat} {file : Bytes} {wasTruncated : Bool}
    {events : List Event} {failure : Failure}
    (refused : (startLog ceiling file wasTruncated events).answer = .error failure) :
    ∃ cause, failure = .io cause := by
  cases stopped : (Transfer.write ceiling file 0 FileHeader.current.encode).failure with
  | none => simp [startLog, stopped] at refused
  | some cause =>
      simp only [startLog, stopped, Except.error.injEq] at refused
      exact ⟨cause, refused.symm⟩

/-- As far as both reach, the file and the header of a log agree. -/
def AgreesWithHeader (file : Bytes) : Prop :=
  file.take FileHeader.size = FileHeader.current.encode.take file.length

instance (file : Bytes) : Decidable (AgreesWithHeader file) :=
  inferInstanceAs (Decidable (_ = _))

theorem agreesWithHeader_of_short {file : Bytes} (short : file.length < FileHeader.size) :
    AgreesWithHeader file ↔ file = FileHeader.current.encode.take file.length := by
  rw [AgreesWithHeader, List.take_of_length_le (Nat.le_of_lt short)]

theorem agreesWithHeader_of_long {file : Bytes} (long : ¬ file.length < FileHeader.size) :
    AgreesWithHeader file ↔ FileHeader.current.encode <+: file := by
  have all : FileHeader.current.encode.take file.length = FileHeader.current.encode := by
    apply List.take_of_length_le
    rw [FileHeader.length_encode]
    exact Nat.le_of_not_lt long
  rw [AgreesWithHeader, all, List.prefix_iff_eq_take, FileHeader.length_encode]
  exact eq_comm

namespace Recovery

variable {settings : Settings} {ceiling : Option Nat} {file : Bytes}
  {outcome : Attachment Recovered}

theorem file_of_corruption (recovery : Recovery settings ceiling file outcome)
    {failure : Failure} (refused : outcome.answer = .error failure)
    (corruption : failure.isCorruption = true) : outcome.file = file := by
  cases recovery with
  | started short agrees mends =>
      obtain ⟨cause, rfl⟩ := startLog_eq_error refused
      cases corruption
  | brokenOff | foreign => rfl
  | scanned => exact settleTail_file_of_error refused

theorem file_of_strict (recovery : Recovery settings ceiling file outcome)
    (strict : settings.tailPolicy = .strict) (nonempty : file ≠ []) : outcome.file = file := by
  cases recovery with
  | started short agrees mends =>
      rcases mends with empty | repairing
      · exact absurd empty nonempty
      · rw [strict] at repairing
        cases repairing
  | brokenOff | foreign => rfl
  | scanned =>
      rw [strict]
      exact settleTail_strict_file file _

theorem accepted_iff (recovery : Recovery settings ceiling file outcome)
    (repairing : settings.tailPolicy = .truncate) (permitted : Permits ceiling FileHeader.size) :
    (∃ recovered, outcome.answer = .ok recovered) ↔ AgreesWithHeader file := by
  cases recovery with
  | started short agrees mends =>
      rw [agreesWithHeader_of_short short, startLog_of_permits short permitted]
      exact ⟨fun _ => agrees, fun _ => ⟨_, rfl⟩⟩
  | brokenOff short nonempty whole =>
      rw [agreesWithHeader_of_short short]
      constructor
      · rintro ⟨recovered, answered⟩
        cases answered
      · intro agrees
        exact absurd ⟨agrees, repairing⟩ whole
  | foreign long foreign refused =>
      rw [agreesWithHeader_of_long long]
      constructor
      · rintro ⟨recovered, answered⟩
        cases answered
      · intro headed
        exact absurd headed foreign
  | @scanned records rest fault whole acceptable stops =>
      have headed : FileHeader.current.encode <+: file := by
        rw [whole, logFile, List.append_assoc]
        exact List.prefix_append _ _
      have long : ¬ file.length < FileHeader.size := by
        have atLeast := headed.length_le
        rw [FileHeader.length_encode] at atLeast
        omega
      rw [agreesWithHeader_of_long long, repairing, whole, (settleTail_truncate records stops).1]
      exact ⟨fun _ => whole ▸ headed, fun _ => ⟨_, rfl⟩⟩

theorem started_of_short (recovery : Recovery settings ceiling file outcome)
    {recovered : Recovered} (answered : outcome.answer = .ok recovered)
    (short : file.length < FileHeader.size) :
    outcome.file = logFile [] ∧ recovered.positions = .empty ∧
      recovered.report.wasTruncated = !file.isEmpty := by
  cases recovery with
  | started short agrees mends =>
      obtain ⟨rfl, after⟩ := startLog_eq_ok short answered
      exact ⟨after, rfl, rfl⟩
  | brokenOff | foreign => cases answered
  | scanned whole =>
      rw [whole, List.length_append, length_logFile] at short
      omega

theorem prefix_of_long (recovery : Recovery settings ceiling file outcome)
    {recovered : Recovered} (answered : outcome.answer = .ok recovered)
    (long : ¬ file.length < FileHeader.size) :
    outcome.file <+: file ∧ FileHeader.size ≤ outcome.file.length := by
  cases recovery with
  | started short agrees mends => exact absurd short long
  | brokenOff | foreign => cases answered
  | @scanned records rest fault whole acceptable stops =>
      cases policy : settings.tailPolicy with
      | strict =>
          rw [settleTail_strict_file]
          exact ⟨List.prefix_refl file, Nat.le_of_not_lt long⟩
      | truncate =>
          rw [whole, (settleTail_truncate records stops).2, length_logFile]
          exact ⟨List.prefix_append _ _, Nat.le_add_right _ _⟩

end Recovery

/-! ## Opening by path -/

namespace Disk

variable {disk prepared : Disk} {path : String} {settings : Settings} {number : FileNumber}
  {contents : Bytes}

theorem read_of_getElem? (held : disk.contents[number]? = some contents) :
    disk.read number = contents := by
  rw [read, List.getD_eq_getElem?_getD, held]
  rfl

theorem openLog_of_held (coherent : settings.Coherent)
    (found : disk.prepareFile path = (.ok number, prepared))
    (held : prepared.contents[number]? = some contents) (ceiling : Option Nat) :
    disk.openLog path settings ceiling =
      ⟨(Handle.attach path settings ceiling contents).answer.map fun handle => ⟨handle, number⟩,
        prepared.store number (Handle.attach path settings ceiling contents).file,
        (Handle.attach path settings ceiling contents).events⟩ := by
  rw [openLog_of_prepareFile coherent found, read_of_getElem? held]

structure OpensAs (disk prepared : Disk) (number : FileNumber) (contents : Bytes)
    (path : String) (settings : Settings) (ceiling : Option Nat) : Prop where
  accepted : ∀ recovered, (recover settings ceiling contents).answer = .ok recovered →
    (disk.openLog path settings ceiling).answer =
      .ok ⟨.ofRecovered path settings recovered, number⟩
  refused : ∀ failure, (recover settings ceiling contents).answer = .error failure →
    (disk.openLog path settings ceiling).answer = .error failure
  stored : (disk.openLog path settings ceiling).disk =
    prepared.store number (recover settings ceiling contents).file

theorem opensAs (coherent : settings.Coherent)
    (found : disk.prepareFile path = (.ok number, prepared))
    (held : prepared.contents[number]? = some contents) (ceiling : Option Nat) :
    disk.OpensAs prepared number contents path settings ceiling := by
  have opening := openLog_of_held coherent found held ceiling
  refine ⟨?_, ?_, ?_⟩
  · intro recovered answered
    rw [opening]
    simp only [(Handle.attach_of_ok path answered).1, Except.map]
  · intro failure answered
    rw [opening]
    simp only [(Handle.attach_of_error path answered).1, Except.map]
  · rw [opening]
    cases answered : (recover settings ceiling contents).answer with
    | ok recovered => simp only [(Handle.attach_of_ok path answered).2]
    | error failure => simp only [(Handle.attach_of_error path answered).2]

theorem store_of_getElem? (held : disk.contents[number]? = some contents) :
    disk.store number contents = disk := by
  have same := store_read disk number
  rwa [read_of_getElem? held] at same

theorem OpensAs.eq_ok {ceiling : Option Nat} {log : OpenLog}
    (opens : disk.OpensAs prepared number contents path settings ceiling)
    (answered : (disk.openLog path settings ceiling).answer = .ok log) :
    ∃ recovered, (recover settings ceiling contents).answer = .ok recovered ∧
      log = ⟨.ofRecovered path settings recovered, number⟩ := by
  cases outcome : (recover settings ceiling contents).answer with
  | ok recovered =>
      rw [opens.accepted recovered outcome] at answered
      cases answered
      exact ⟨recovered, rfl, rfl⟩
  | error failure =>
      rw [opens.refused failure outcome] at answered
      cases answered

theorem OpensAs.eq_error {ceiling : Option Nat} {failure : Failure}
    (opens : disk.OpensAs prepared number contents path settings ceiling)
    (answered : (disk.openLog path settings ceiling).answer = .error failure) :
    (recover settings ceiling contents).answer = .error failure := by
  cases outcome : (recover settings ceiling contents).answer with
  | ok recovered =>
      rw [opens.accepted recovered outcome] at answered
      cases answered
  | error cause =>
      rw [opens.refused cause outcome] at answered
      cases answered
      rfl

theorem OpensAs.unchanged {ceiling : Option Nat}
    (opens : disk.OpensAs prepared number contents path settings ceiling)
    (held : prepared.contents[number]? = some contents)
    (kept : (recover settings ceiling contents).file = contents) :
    (disk.openLog path settings ceiling).disk = prepared := by
  rw [opens.stored, kept, store_of_getElem? held]

theorem OpensAs.read_eq {ceiling : Option Nat}
    (opens : disk.OpensAs prepared number contents path settings ceiling)
    (held : prepared.contents[number]? = some contents) :
    (disk.openLog path settings ceiling).disk.read number =
      (recover settings ceiling contents).file := by
  obtain ⟨standing, _⟩ := List.getElem?_eq_some_iff.mp held
  rw [opens.stored, read_store standing]

theorem OpensAs.accepted_iff {ceiling : Option Nat}
    (opens : disk.OpensAs prepared number contents path settings ceiling) :
    (∃ log, (disk.openLog path settings ceiling).answer = .ok log) ↔
      ∃ recovered, (recover settings ceiling contents).answer = .ok recovered := by
  constructor
  · rintro ⟨log, answered⟩
    obtain ⟨recovered, outcome, _⟩ := opens.eq_ok answered
    exact ⟨recovered, outcome⟩
  · rintro ⟨recovered, outcome⟩
    exact ⟨_, opens.accepted recovered outcome⟩

/-- What was in the file that was prepared: what it held before, or nothing if it is new. -/
theorem held_before (found : disk.prepareFile path = (.ok number, prepared))
    (held : prepared.contents[number]? = some contents) :
    prepared.contents = disk.contents ∧ disk.contents[number]? = some contents ∨
      disk.contents[number]? = none ∧ contents = [] := by
  rcases contents_of_prepareFile found with same | ⟨rfl, added⟩
  · rw [same] at held
    exact .inl ⟨same, held⟩
  · rw [added, List.getElem?_concat_length] at held
    cases held
    exact .inr ⟨List.getElem?_eq_none (Nat.le_refl _), rfl⟩

/-- Settings that are not coherent touch nothing. With coherent ones, and no trouble on the
way to the file, repair opens just what agrees with a header and leaves a header, or a part
of the file that is at least as long; a refusal for the sake of the contents leaves the
disk as it was prepared, and so does the strict policy unless the file was empty. -/
theorem openLog_repairs_or_spares (disk : Disk) (path : String) (settings : Settings) :
    (¬ settings.Coherent → ∀ ceiling,
      (disk.openLog path settings ceiling).disk = disk ∧
        (disk.openLog path settings ceiling).answer =
          .error (.segmentTooSmall settings.maxSegmentSize settings.maxPayloadSize)) ∧
    (settings.Coherent → ∀ number prepared contents,
      disk.prepareFile path = (.ok number, prepared) →
      prepared.contents[number]? = some contents →
      (prepared.contents = disk.contents ∧ disk.contents[number]? = some contents ∨
        disk.contents[number]? = none ∧ contents = []) ∧
      (∀ existing, disk.lookupFile path = .ok existing →
        existing = number ∧ prepared = disk) ∧
      (settings.tailPolicy = .truncate → ∀ ceiling, Permits ceiling FileHeader.size →
        let opening := disk.openLog path settings ceiling
        ((∃ log, opening.answer = .ok log) ↔ AgreesWithHeader contents) ∧
        ∀ log, opening.answer = .ok log →
          (contents.length < FileHeader.size →
            opening.disk.read number = FileHeader.current.encode ∧
            log.handle.positions = .empty ∧
            (log.handle.report.wasTruncated = true ↔ 1 ≤ contents.length)) ∧
          (¬ contents.length < FileHeader.size →
            opening.disk.read number <+: contents ∧
            FileHeader.size ≤ (opening.disk.read number).length)) ∧
      (∀ ceiling failure, (disk.openLog path settings ceiling).answer = .error failure →
        failure.isCorruption = true → (disk.openLog path settings ceiling).disk = prepared) ∧
      (settings.tailPolicy = .strict → contents ≠ [] → ∀ ceiling,
        (disk.openLog path settings ceiling).disk = prepared)) := by
  refine ⟨?_, ?_⟩
  · intro incoherent ceiling
    simp only [openLog, Settings.check, if_neg incoherent, and_self]
  · intro coherent number prepared contents found held
    have opens := opensAs coherent found held
    refine ⟨held_before found held, ?_, ?_, ?_, ?_⟩
    · intro existing looked
      have again := (finds_of_lookupFile looked).prepareFile
      rw [found] at again
      cases again
      exact ⟨rfl, rfl⟩
    · intro repairing ceiling permitted opening
      have recovery := recovery_recover settings ceiling contents
      refine ⟨(opens ceiling).accepted_iff.trans (recovery.accepted_iff repairing permitted), ?_⟩
      intro log answered
      obtain ⟨recovered, outcome, rfl⟩ := (opens ceiling).eq_ok answered
      rw [show opening.disk.read number = _ from (opens ceiling).read_eq held]
      refine ⟨?_, recovery.prefix_of_long outcome⟩
      intro short
      obtain ⟨after, positions, truncated⟩ := recovery.started_of_short outcome short
      refine ⟨after, positions, ?_⟩
      change recovered.report.wasTruncated = true ↔ 1 ≤ contents.length
      rw [truncated]
      simp [Nat.one_le_iff_ne_zero]
    · intro ceiling failure answered corruption
      have refused := (opens ceiling).eq_error answered
      exact (opens ceiling).unchanged held
        ((recovery_recover settings ceiling contents).file_of_corruption refused corruption)
    · intro strict nonempty ceiling
      exact (opens ceiling).unchanged held
        ((recovery_recover settings ceiling contents).file_of_strict strict nonempty)

/-- A file that breaks off inside its header is found beside a directory, and mended. -/
theorem openLog_mends_torn_header :
    let disk : Disk :=
      { workingDirectory := ["work"], directories := [["work", "logs"], ["work"]]
        names := [(["work", "one.wal"], 0)], contents := [[0x57, 0x41, 0x4C]] }
    ({} : Settings).Coherent ∧ ¬ ({ maxSegmentSize := 0 } : Settings).Coherent ∧
      (disk.openLog "./logs/../one.wal" { maxSegmentSize := 0 } none).disk = disk ∧
      ∃ log, (disk.openLog "./logs/../one.wal" {} none).answer = .ok log ∧
        (disk.openLog "./logs/../one.wal" {} none).disk.read 0 = FileHeader.current.encode ∧
        log.handle.report.wasTruncated = true := by
  intro disk
  have coherent : ({} : Settings).Coherent := by decide
  have incoherent : ¬ ({ maxSegmentSize := 0 } : Settings).Coherent := by decide
  obtain ⟨untouched, _⟩ :=
    (openLog_repairs_or_spares disk "./logs/../one.wal" _).1 incoherent none
  obtain ⟨_, _, repairs, _⟩ :=
    (openLog_repairs_or_spares disk "./logs/../one.wal" {}).2 coherent 0 disk _ rfl rfl
  obtain ⟨accepts, leaves⟩ := repairs rfl none (by decide)
  obtain ⟨log, answered⟩ := accepts.mpr (by decide)
  obtain ⟨mended, _⟩ := leaves log answered
  obtain ⟨header, _, truncated⟩ := mended (by decide)
  exact ⟨coherent, incoherent, untouched, log, answered, header, truncated.mpr (by decide)⟩

end Disk

end FrameLog
