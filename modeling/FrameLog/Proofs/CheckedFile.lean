import FrameLog.Proofs.ScannersAgree

/-!
# Checking a file before opening it

Checking is meant to find, without touching the file, what opening it for repair would
find. It does, for a file of any contents but one: a file that breaks off inside the header
is mended when it is opened, and refused when it is checked.
-/

set_option autoImplicit false

namespace FrameLog

open PlainLog (Permits)

/-- The file has only the first octets of a header, at least one and not all. -/
def BreaksOffInHeader (file : Bytes) : Prop :=
  file ≠ [] ∧ file.length < FileHeader.size ∧ file = FileHeader.current.encode.take file.length

instance (file : Bytes) : Decidable (BreaksOffInHeader file) :=
  inferInstanceAs (Decidable (_ ∧ _ ∧ _))

structure Report.AgreesWith (found opened : Report) : Prop where
  recordsRecovered : found.recordsRecovered = opened.recordsRecovered
  recordsCorrupted : found.recordsCorrupted = opened.recordsCorrupted
  lastIndex : found.lastIndex = opened.lastIndex
  wasTruncated : found.wasTruncated = opened.wasTruncated

def Report.mended : Report where
  wasTruncated := true
  validBytes := FileHeader.size

/-! ## Files -/

theorem verify_congr {checking settings : Settings}
    (same : checking.maxPayloadSize = settings.maxPayloadSize) (file : Bytes) :
    verify checking file = verify settings file := by
  simp only [verify, same]

theorem readFileHeader_of_short {file : Bytes} (short : file.length < FileHeader.size) :
    readFileHeader file = .error (.corrupted (.shortFileHeader file.length)) := by
  have all : file.window 0 FileHeader.size = file := by
    rw [Bytes.window, List.drop_zero, List.take_of_length_le (Nat.le_of_lt short)]
  rw [readFileHeader, Transfer.readFull_nil, all, FileHeader.decode_short short]

theorem verify_of_short (settings : Settings) {file : Bytes} (occupied : file ≠ [])
    (short : file.length < FileHeader.size) :
    verify settings file = .error (.corrupted (.shortFileHeader file.length)) := by
  rw [verify, if_neg (by simpa using occupied), readFileHeader_of_short short]

/-- What checking a file comes to, beside what recovering it comes to. -/
inductive CheckedAs (file : Bytes) : Except Failure Report → Except Failure Recovered → Prop where
  | accepted {found : Report} {recovered : Recovered} : ¬ BreaksOffInHeader file →
      found.AgreesWith recovered.report → CheckedAs file (.ok found) (.ok recovered)
  | refused {failure : Failure} : ¬ BreaksOffInHeader file →
      CheckedAs file (.error failure) (.error failure)
  | missed {recovered : Recovered} : BreaksOffInHeader file → recovered.report = .mended →
      CheckedAs file (.error (.corrupted (.shortFileHeader file.length))) (.ok recovered)

theorem Recovery.checkedAs {settings : Settings} {ceiling : Option Nat} {file : Bytes}
    {outcome : Attachment Recovered} (recovery : Recovery settings ceiling file outcome)
    (repairing : settings.tailPolicy = .truncate) (permitted : Permits ceiling FileHeader.size) :
    CheckedAs file (verify settings file) outcome.answer := by
  cases recovery with
  | started short agrees mends =>
      rw [startLog_of_permits short permitted]
      by_cases occupied : file = []
      · subst occupied
        exact .accepted (fun breaks => breaks.1 rfl) ⟨rfl, rfl, rfl, rfl⟩
      · have truncated : (!file.isEmpty) = true := by simpa using occupied
        rw [verify_of_short settings occupied short, truncated]
        exact .missed ⟨occupied, short, agrees⟩ rfl
  | brokenOff short occupied whole =>
      rw [verify_of_short settings occupied short]
      exact .refused fun breaks => whole ⟨breaks.2.2, repairing⟩
  | foreign long foreign refused =>
      rw [verify_of_foreign settings long refused]
      exact .refused fun breaks => long breaks.2.1
  | @scanned records rest fault whole acceptable stops =>
      subst whole
      have long : ¬ BreaksOffInHeader (logFile records ++ rest) := by
        rintro ⟨_, short, _⟩
        rw [List.length_append, length_logFile] at short
        omega
      rw [repairing, (settleTail_truncate records stops).1, verify_logFile_append acceptable stops]
      exact .accepted long ⟨rfl, rfl, rfl, rfl⟩

/-! ## Logs by path -/

namespace Disk

/-- Whatever an existing file holds, and as long as it does not break off inside the header,
checking succeeds if and only if opening for repair does, and they report alike. -/
theorem check_finds_what_repair_finds (disk : Disk) (path : String) (number : FileNumber)
    (file : Bytes) (checking settings : Settings) (ceiling : Option Nat)
    (found : disk.lookupFile path = .ok number) (held : disk.contents[number]? = some file)
    (same : checking.maxPayloadSize = settings.maxPayloadSize) (coherent : settings.Coherent)
    (repairing : settings.tailPolicy = .truncate) (permitted : Permits ceiling FileHeader.size) :
    let checked := disk.verify path checking
    let opening := disk.openLog path settings ceiling
    (¬ BreaksOffInHeader file →
      ((∃ report, checked = .ok report) ↔ ∃ log, opening.answer = .ok log) ∧
      (∀ report log, checked = .ok report → opening.answer = .ok log →
        report.AgreesWith log.handle.report) ∧
      ∀ failure, checked = .error failure → opening.answer = .error failure) ∧
    (BreaksOffInHeader file →
      checked = .error (.corrupted (.shortFileHeader file.length)) ∧
      ∃ log, opening.answer = .ok log ∧ log.handle.report = .mended) := by
  intro checked opening
  have opens := opensAs coherent (finds_of_lookupFile found).prepareFile held ceiling
  have checkedAs := (recovery_recover settings ceiling file).checkedAs repairing permitted
  rw [← verify_congr same, ← verify_of_held found held checking] at checkedAs
  rw [show disk.verify path checking = checked from rfl] at checkedAs
  generalize answered : (recover settings ceiling file).answer = answer at checkedAs
  generalize checked = outcome at checkedAs ⊢
  cases checkedAs with
  | accepted whole agrees =>
      have accepted := opens.accepted _ answered
      refine ⟨fun _ => ⟨⟨fun _ => ⟨_, accepted⟩, fun _ => ⟨_, rfl⟩⟩, ?_, ?_⟩,
        fun breaks => absurd breaks whole⟩
      · intro report log found opened
        cases found
        cases accepted.symm.trans opened
        exact agrees
      · intro failure failed
        cases failed
  | refused whole =>
      have refused := opens.refused _ answered
      refine ⟨fun _ => ⟨?_, ?_, ?_⟩, fun breaks => absurd breaks whole⟩
      · constructor
        · rintro ⟨report, found⟩
          cases found
        · rintro ⟨log, opened⟩
          cases refused.symm.trans opened
      · intro report log found
        cases found
      · intro failure failed
        cases failed
        exact refused
  | missed breaks mended =>
      exact ⟨fun whole => absurd breaks whole,
        fun _ => ⟨rfl, _, opens.accepted _ answered, mended⟩⟩

/-- Three octets behind the last record are found by checking under the strict policy, too. -/
theorem check_finds_partial_frame_header :
    let disk : Disk :=
      { names := [(["one.wal"], 0)], contents := [logFile [.ofPayload [1, 2]] ++ [1, 0, 0]] }
    ∃ report log, disk.verify "one.wal" { tailPolicy := .strict } = .ok report ∧
      (disk.openLog "one.wal" {} none).answer = .ok log ∧
      report.AgreesWith log.handle.report := by
  intro disk
  have coherent : ({} : Settings).Coherent := by decide
  have permitted : Permits none FileHeader.size := PlainLog.permits_none _
  obtain ⟨agree, _⟩ := check_finds_what_repair_finds disk "one.wal" 0 _
    { tailPolicy := .strict } {} none rfl rfl rfl coherent rfl permitted
  obtain ⟨accepts, agrees, _⟩ := agree (by decide +kernel)
  have prepared : disk.prepareFile "one.wal" = (.ok 0, disk) := rfl
  have opens := opensAs coherent prepared rfl none
  obtain ⟨log, opened⟩ := opens.accepted_iff.mpr
    (((recovery_recover _ none _).accepted_iff rfl permitted).mpr (by decide +kernel))
  obtain ⟨report, checked⟩ := accepts.mpr ⟨log, opened⟩
  exact ⟨report, log, checked, opened, agrees report log checked opened⟩

/-- A file of the first three octets of a header is opened, but does not pass the check. -/
theorem check_refuses_torn_header :
    let disk : Disk := { names := [(["one.wal"], 0)], contents := [[0x57, 0x41, 0x4C]] }
    (∃ log, (disk.openLog "one.wal" {} none).answer = .ok log ∧
      log.handle.report = .mended) ∧
    ¬ ∃ report, disk.verify "one.wal" {} = .ok report := by
  intro disk
  refine ⟨⟨_, rfl, rfl⟩, ?_⟩
  rintro ⟨report, checked⟩
  cases checked

end Disk

end FrameLog
