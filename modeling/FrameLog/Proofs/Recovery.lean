import FrameLog.Handle.Attach
import FrameLog.Proofs.Mirror

/-!
# What opening makes of a file

Any file that starts with the current header is a log of acceptable records with a rest
behind it at which a scan stops. Repair always opens it and leaves the log; the strict
policy opens it exactly if the rest is shorter than a frame header, and leaves the file.
`Recovery` lists what can become of a file that is empty, too short, foreign or a log.

Main statement: a handle that was just opened mirrors its file, whatever was in it.
-/

set_option autoImplicit false

namespace FrameLog

open PlainLog (Permits)

def Handle.restored (path : String) (settings : Settings) (records : List Record)
    (report : Report) : Handle :=
  .ofRecovered path settings
    ⟨⟨frameOffsets FileHeader.size records⟩, FileHeader.size + framesSize records, report⟩

theorem Handle.mirrors_restored (path : String) {settings : Settings} {records : List Record}
    (report : Report) {dangling : Bytes}
    (acceptable : ∀ record ∈ records, record.Acceptable settings.maxPayloadSize)
    (short : dangling.length < FrameHeader.size) :
    (restored path settings records report).Mirrors (logFile records ++ dangling) records
      dangling where
  contents := rfl
  acceptable := acceptable
  short := short
  offsets := rfl
  writeOffset := rfl
  nextIndex := by
    change (frameOffsets FileHeader.size records).length + 1 = records.length + 1
    rw [length_frameOffsets]

theorem Handle.mirrors_restored_whole (path : String) {settings : Settings}
    {records : List Record} (report : Report)
    (acceptable : ∀ record ∈ records, record.Acceptable settings.maxPayloadSize) :
    (restored path settings records report).Mirrors (logFile records) records [] := by
  have nothing : ([] : Bytes).length < FrameHeader.size := Nat.zero_lt_succ _
  have mirrors := mirrors_restored path report acceptable nothing
  rwa [List.append_nil] at mirrors

/-! ## The rest behind the sound records -/

/-- Only what is shorter than a frame header ends a log without being at fault. -/
theorem Reading.benign_iff {limit : UInt32} {octets : Bytes} {fault : Fault}
    (reading : Reading limit octets (.error fault)) :
    octets.length < FrameHeader.size ↔
      fault = .absent ∨ ∃ available, fault = .partialHeader available := by
  cases reading with
  | absent => simp [FrameHeader.size]
  | partialHeader nonempty short => simp [short]
  | @oversized header behind oversized =>
      simp only [List.length_append, FrameHeader.length_encode, reduceCtorEq, exists_false,
        or_false, iff_false]
      omega
  | @torn header behind allowed torn =>
      simp only [List.length_append, FrameHeader.length_encode, reduceCtorEq, exists_false,
        or_false, iff_false]
      omega
  | @mismatch record rest within unsound =>
      have size := record.size_le_frameSize
      simp only [List.length_append, Record.length_encode, reduceCtorEq, exists_false, or_false,
        iff_false]
      omega

section

variable {rest : Bytes} {fault : Fault} {limit : UInt32}

theorem settleTail_truncate (records : List Record) (stops : readFrame limit rest = .error fault) :
    (settleTail .truncate (logFile records ++ rest) ⟨records, fault⟩).answer =
        .ok ⟨⟨frameOffsets FileHeader.size records⟩, FileHeader.size + framesSize records,
          (Scan.mk records fault).report⟩ ∧
      (settleTail .truncate (logFile records ++ rest) ⟨records, fault⟩).file =
        logFile records := by
  have cut : (logFile records ++ rest).resize (Scan.mk records fault).soundEnd =
      logFile records := by
    rw [Scan.soundEnd, ← length_logFile, Bytes.resize_append_left]
  cases fault with
  | absent =>
      rw [readFrame_eq_absent_iff] at stops
      exact ⟨rfl, by rw [stops, List.append_nil]; rfl⟩
  | partialHeader => exact ⟨rfl, cut⟩
  | oversized => exact ⟨rfl, cut⟩
  | torn => exact ⟨rfl, cut⟩
  | mismatch => exact ⟨rfl, cut⟩

def Report.intact (records : List Record) : Report where
  recordsRecovered := records.length
  lastIndex := records.length
  validBytes := FileHeader.size + framesSize records

theorem settleTail_strict_of_short (records : List Record)
    (stops : readFrame limit rest = .error fault) (short : rest.length < FrameHeader.size) :
    settleTail .strict (logFile records ++ rest) ⟨records, fault⟩ =
      ⟨.ok ⟨⟨frameOffsets FileHeader.size records⟩, FileHeader.size + framesSize records,
        .intact records⟩, logFile records ++ rest, []⟩ := by
  rcases (readFrame_eq_iff.mp stops).benign_iff.mp short with rfl | ⟨available, rfl⟩
  · rfl
  · rfl

theorem settleTail_strict_of_long (records : List Record)
    (stops : readFrame limit rest = .error fault) (long : ¬ rest.length < FrameHeader.size) :
    settleTail .strict (logFile records ++ rest) ⟨records, fault⟩ =
      ⟨.error (fault.failure (FileHeader.size + framesSize records)), logFile records ++ rest,
        []⟩ := by
  rw [(readFrame_eq_iff.mp stops).benign_iff] at long
  cases fault with
  | absent => exact absurd (.inl rfl) long
  | partialHeader available => exact absurd (.inr ⟨available, rfl⟩) long
  | oversized => rfl
  | torn => rfl
  | mismatch => rfl

end

/-! ## Files with a header -/

theorem readFileHeader_append (behind : Bytes) :
    readFileHeader (FileHeader.current.encode ++ behind) = .ok FileHeader.current := by
  have head : (FileHeader.current.encode ++ behind).window 0 FileHeader.size =
      FileHeader.current.encode := by
    rw [Bytes.window, List.drop_zero]
    exact List.take_left' (FileHeader.length_encode _)
  have decoded := FileHeader.decode_encode FileHeader.current []
  rw [List.append_nil] at decoded
  have checked := FileHeader.check_eq_ok_iff.mpr (Eq.refl FileHeader.current)
  simp only [readFileHeader, Transfer.readFull_nil, head, decoded, checked]

theorem readFileHeader_logFile_append (records : List Record) (behind : Bytes) :
    readFileHeader (logFile records ++ behind) = .ok FileHeader.current := by
  rw [logFile, List.append_assoc, readFileHeader_append]

theorem recover_logFile_append {settings : Settings} (ceiling : Option Nat)
    {records : List Record} {rest : Bytes} {fault : Fault}
    (acceptable : ∀ record ∈ records, record.Acceptable settings.maxPayloadSize)
    (stops : readFrame settings.maxPayloadSize rest = .error fault) :
    recover settings ceiling (logFile records ++ rest) =
      settleTail settings.tailPolicy (logFile records ++ rest) ⟨records, fault⟩ := by
  have occupied : (logFile records ++ rest).isEmpty = false := rfl
  have long : ¬ (logFile records ++ rest).length < FileHeader.size := by
    rw [List.length_append, length_logFile]
    omega
  have headed := readFileHeader_logFile_append records rest
  have scanned := scanFile_logFile_append acceptable stops
  simp only [recover, occupied, long, headed, scanned, Bool.false_eq_true, if_false]

theorem exists_logFile_append (limit : UInt32) {file : Bytes}
    (headed : FileHeader.current.encode <+: file) :
    ∃ records rest fault, file = logFile records ++ rest ∧
      Parted limit (file.drop FileHeader.size) records rest ∧
      readFrame limit rest = .error fault := by
  obtain ⟨behind, rfl⟩ := headed
  have front : (FileHeader.current.encode ++ behind).drop FileHeader.size = behind :=
    List.drop_left' (FileHeader.length_encode _)
  obtain ⟨rest, parted, stops⟩ := parted_scan limit behind
  refine ⟨(scan limit behind).records, rest, (scan limit behind).fault, ?_,
    front.symm ▸ parted, stops⟩
  rw [logFile, List.append_assoc, ← parted.joined]

theorem encode_prefix_of_readFileHeader {file : Bytes} {header : FileHeader}
    (read : readFileHeader file = .ok header) : FileHeader.current.encode <+: file := by
  have decodedPrefix : ∀ {octets : Bytes} {found : FileHeader},
      FileHeader.decode octets = .ok found → found.encode <+: octets := by
    intro octets found decoded
    unfold FileHeader.decode at decoded
    split at decoded
    · cases decoded
      simp only [FileHeader.encode, Bytes.ofWord_toWord]
      exact List.prefix_append _ _
    · cases decoded
  rw [readFileHeader, Transfer.readFull_nil] at read
  cases decoded : FileHeader.decode (file.window 0 FileHeader.size) with
  | error failure => simp [decoded] at read
  | ok found =>
      cases checked : found.check with
      | error failure => simp [decoded, checked] at read
      | ok done =>
          have current := FileHeader.check_eq_ok_iff.mp checked
          have leading := decodedPrefix decoded
          rw [current] at leading
          exact leading.trans (by rw [Bytes.window, List.drop_zero]; exact List.take_prefix _ _)

theorem readFileHeader_of_foreign {file : Bytes}
    (foreign : ¬ FileHeader.current.encode <+: file) :
    ∃ detail, readFileHeader file = .error (.corrupted detail) := by
  cases read : readFileHeader file with
  | ok header => exact absurd (encode_prefix_of_readFileHeader read) foreign
  | error failure =>
      unfold readFileHeader FileHeader.decode at read
      split at read
      · next undecoded =>
          split at undecoded
          · cases undecoded
          · cases undecoded
            cases read
            exact ⟨_, rfl⟩
      · unfold FileHeader.check at read
        split at read
        · next unchecked =>
            split at unchecked
            · cases unchecked
              cases read
              exact ⟨_, rfl⟩
            · split at unchecked
              · cases unchecked
                cases read
                exact ⟨_, rfl⟩
              · cases unchecked
        · cases read

theorem not_isEmpty_of_long {file : Bytes} (long : ¬ file.length < FileHeader.size) :
    ¬ file.isEmpty = true := by
  intro empty
  rw [List.isEmpty_iff.mp empty] at long
  exact long (Nat.zero_lt_succ _)

/-! ## Files too short for a header -/

theorem startLog_of_permits {ceiling : Option Nat} {file : Bytes}
    (short : file.length < FileHeader.size) (permitted : Permits ceiling FileHeader.size)
    (wasTruncated : Bool) (events : List Event) :
    startLog ceiling file wasTruncated events =
      ⟨.ok ⟨.empty, FileHeader.size, { wasTruncated, validBytes := FileHeader.size }⟩,
        logFile [], events⟩ := by
  have start : 0 + FileHeader.current.encode.length = FileHeader.size := rfl
  rw [← start] at permitted
  have covered : file.overlay 0 FileHeader.current.encode = logFile [] := by
    have laid := Bytes.overlay_append [] file FileHeader.current.encode
    rw [List.drop_eq_nil_of_le (by rw [FileHeader.length_encode]; omega)] at laid
    exact laid
  simp only [startLog, Transfer.write_of_permits permitted, covered]

theorem startLog_of_not_permits {ceiling : Option Nat} (file : Bytes)
    (forbidden : ¬ Permits ceiling FileHeader.size) (wasTruncated : Bool)
    (events : List Event) :
    (startLog ceiling file wasTruncated events).answer = .error (.io .fileTooLarge) := by
  have start : 0 + FileHeader.current.encode.length = FileHeader.size := rfl
  rw [← start] at forbidden
  obtain ⟨moved, written⟩ :=
    Transfer.write_of_not_permits forbidden (List.cons_ne_nil _ _) file
  simp only [startLog, written]

theorem startLog_eq_ok {ceiling : Option Nat} {file : Bytes} {wasTruncated : Bool}
    {events : List Event} {recovered : Recovered} (short : file.length < FileHeader.size)
    (answered : (startLog ceiling file wasTruncated events).answer = .ok recovered) :
    recovered = ⟨.empty, FileHeader.size, { wasTruncated, validBytes := FileHeader.size }⟩ ∧
      (startLog ceiling file wasTruncated events).file = logFile [] := by
  by_cases permitted : Permits ceiling FileHeader.size
  · rw [startLog_of_permits short permitted] at answered ⊢
    cases answered
    exact ⟨rfl, rfl⟩
  · rw [startLog_of_not_permits file permitted] at answered
    cases answered

def TornHeader (settings : Settings) (file : Bytes) : Prop :=
  file = FileHeader.current.encode.take file.length ∧ settings.tailPolicy = .truncate

theorem recover_nil (settings : Settings) (ceiling : Option Nat) :
    recover settings ceiling [] = startLog ceiling [] false [] := rfl

section

variable {settings : Settings} {file : Bytes}

theorem recover_of_torn (ceiling : Option Nat) (nonempty : file ≠ [])
    (short : file.length < FileHeader.size) (torn : TornHeader settings file) :
    recover settings ceiling file =
      startLog ceiling file true [.mendingFileHeader file.length] := by
  rw [recover, if_neg (by simpa using nonempty), if_pos short]
  exact if_pos torn

theorem recover_of_not_torn (ceiling : Option Nat) (nonempty : file ≠ [])
    (short : file.length < FileHeader.size) (whole : ¬ TornHeader settings file) :
    recover settings ceiling file =
      ⟨.error (.corrupted (.shortFileHeader file.length)), file, []⟩ := by
  rw [recover, if_neg (by simpa using nonempty), if_pos short]
  exact if_neg whole

end

theorem recover_of_foreign {settings : Settings} {file : Bytes} {failure : Failure}
    (ceiling : Option Nat) (long : ¬ file.length < FileHeader.size)
    (refused : readFileHeader file = .error failure) :
    recover settings ceiling file = ⟨.error failure, file, []⟩ := by
  rw [recover, if_neg (not_isEmpty_of_long long), if_neg long, refused]

/-! ## The ways of recovering a file -/

/-- What recovering a file comes to: a new log, one of two refusals, or a scan whose tail is
settled. -/
inductive Recovery (settings : Settings) (ceiling : Option Nat) (file : Bytes) :
    Attachment Recovered → Prop where
  | started {events : List Event} :
      file.length < FileHeader.size → file = FileHeader.current.encode.take file.length →
      file = [] ∨ settings.tailPolicy = .truncate →
      Recovery settings ceiling file (startLog ceiling file (!file.isEmpty) events)
  | brokenOff :
      file.length < FileHeader.size → file ≠ [] → ¬ TornHeader settings file →
      Recovery settings ceiling file
        ⟨.error (.corrupted (.shortFileHeader file.length)), file, []⟩
  | foreign {detail : Corruption} :
      ¬ file.length < FileHeader.size → ¬ FileHeader.current.encode <+: file →
      readFileHeader file = .error (.corrupted detail) →
      Recovery settings ceiling file ⟨.error (.corrupted detail), file, []⟩
  | scanned {records : List Record} {rest : Bytes} {fault : Fault} :
      file = logFile records ++ rest →
      (∀ record ∈ records, record.Acceptable settings.maxPayloadSize) →
      readFrame settings.maxPayloadSize rest = .error fault →
      Recovery settings ceiling file (settleTail settings.tailPolicy file ⟨records, fault⟩)

theorem recovery_recover (settings : Settings) (ceiling : Option Nat) (file : Bytes) :
    Recovery settings ceiling file (recover settings ceiling file) := by
  by_cases short : file.length < FileHeader.size
  · by_cases empty : file = []
    · subst empty
      exact .started short rfl (.inl rfl)
    · by_cases torn : TornHeader settings file
      · have occupied : (!file.isEmpty) = true := by simpa using empty
        rw [recover_of_torn ceiling empty short torn, ← occupied]
        exact .started short torn.1 (.inr torn.2)
      · rw [recover_of_not_torn ceiling empty short torn]
        exact .brokenOff short empty torn
  · by_cases headed : FileHeader.current.encode <+: file
    · obtain ⟨records, rest, fault, whole, parted, stops⟩ :=
        exists_logFile_append settings.maxPayloadSize headed
      have scanned := recover_logFile_append ceiling parted.acceptable stops
      rw [← whole] at scanned
      rw [scanned]
      exact .scanned whole parted.acceptable stops
    · obtain ⟨detail, refused⟩ := readFileHeader_of_foreign headed
      rw [recover_of_foreign ceiling short refused]
      exact .foreign short headed refused

/-! ## Everything that opening accepts -/

/-- What is recovered is always a log of acceptable records, with less than a frame header
behind it, and with nothing behind it unless the policy is strict. -/
theorem recover_eq_ok {settings : Settings} {ceiling : Option Nat} {file : Bytes}
    {recovered : Recovered}
    (answered : (recover settings ceiling file).answer = .ok recovered) :
    ∃ records dangling report,
      recovered = ⟨⟨frameOffsets FileHeader.size records⟩,
        FileHeader.size + framesSize records, report⟩ ∧
      (recover settings ceiling file).file = logFile records ++ dangling ∧
      (∀ record ∈ records, record.Acceptable settings.maxPayloadSize) ∧
      dangling.length < FrameHeader.size ∧
      (dangling = [] ∨ settings.tailPolicy = .strict) := by
  have recovery := recovery_recover settings ceiling file
  generalize recover settings ceiling file = outcome at recovery answered ⊢
  cases recovery with
  | started short agrees mends =>
      obtain ⟨rfl, after⟩ := startLog_eq_ok short answered
      exact ⟨[], [], _, rfl, by rw [after, List.append_nil], by simp, Nat.zero_lt_succ _,
        .inl rfl⟩
  | brokenOff | foreign => cases answered
  | @scanned records rest fault whole acceptable stops =>
      subst whole
      cases policy : settings.tailPolicy with
      | truncate =>
          rw [policy] at answered
          obtain ⟨settled, after⟩ := settleTail_truncate records stops
          rw [settled] at answered
          cases answered
          exact ⟨records, [], _, rfl, by rw [after, List.append_nil], acceptable,
            Nat.zero_lt_succ _, .inl rfl⟩
      | strict =>
          rw [policy] at answered
          by_cases benign : rest.length < FrameHeader.size
          · rw [settleTail_strict_of_short records stops benign] at answered ⊢
            cases answered
            exact ⟨records, rest, _, rfl, rfl, acceptable, benign, .inr rfl⟩
          · rw [settleTail_strict_of_long records stops benign] at answered
            cases answered

/-! ## Attaching -/

section

variable {path : String} {settings : Settings} {ceiling : Option Nat} {file : Bytes}

theorem Handle.attach_of_ok (path : String) {recovered : Recovered}
    (answered : (recover settings ceiling file).answer = .ok recovered) :
    (attach path settings ceiling file).answer = .ok (.ofRecovered path settings recovered) ∧
      (attach path settings ceiling file).file = (recover settings ceiling file).file := by
  rcases outcome : recover settings ceiling file with ⟨answer, after, events⟩
  rw [outcome] at answered
  dsimp only at answered
  subst answered
  simp only [attach, outcome, and_self]

theorem Handle.attach_of_error (path : String) {failure : Failure}
    (answered : (recover settings ceiling file).answer = .error failure) :
    (attach path settings ceiling file).answer = .error failure ∧
      (attach path settings ceiling file).file = (recover settings ceiling file).file := by
  rcases outcome : recover settings ceiling file with ⟨answer, after, events⟩
  rw [outcome] at answered
  dsimp only at answered
  subst answered
  simp only [attach, outcome, and_self]

variable {records : List Record} {rest : Bytes} {fault : Fault}

theorem Handle.attach_truncate (path : String) (ceiling : Option Nat)
    (repairing : settings.tailPolicy = .truncate)
    (acceptable : ∀ record ∈ records, record.Acceptable settings.maxPayloadSize)
    (stops : readFrame settings.maxPayloadSize rest = .error fault) :
    (attach path settings ceiling (logFile records ++ rest)).answer =
        .ok (restored path settings records (Scan.mk records fault).report) ∧
      (attach path settings ceiling (logFile records ++ rest)).file = logFile records := by
  have recovered := recover_logFile_append ceiling acceptable stops
  rw [repairing] at recovered
  obtain ⟨answered, after⟩ := settleTail_truncate records stops
  rw [← recovered] at answered after
  obtain ⟨opened, kept⟩ := attach_of_ok path answered
  exact ⟨opened, kept.trans after⟩

theorem Handle.attach_strict_of_short (path : String) (ceiling : Option Nat)
    (strict : settings.tailPolicy = .strict)
    (acceptable : ∀ record ∈ records, record.Acceptable settings.maxPayloadSize)
    (short : rest.length < FrameHeader.size) :
    (attach path settings ceiling (logFile records ++ rest)).answer =
        .ok (restored path settings records (.intact records)) ∧
      (attach path settings ceiling (logFile records ++ rest)).file =
        logFile records ++ rest := by
  obtain ⟨fault, stops, _⟩ := unfinished_of_short settings.maxPayloadSize short rest.length
  rw [List.take_length] at stops
  have recovered := recover_logFile_append ceiling acceptable stops
  rw [strict, settleTail_strict_of_short records stops short] at recovered
  obtain ⟨opened, kept⟩ := attach_of_ok path (congrArg Attachment.answer recovered)
  exact ⟨opened, kept.trans (congrArg Attachment.file recovered)⟩

theorem Handle.attach_strict_of_long (path : String) (ceiling : Option Nat)
    (strict : settings.tailPolicy = .strict)
    (acceptable : ∀ record ∈ records, record.Acceptable settings.maxPayloadSize)
    (stops : readFrame settings.maxPayloadSize rest = .error fault)
    (long : ¬ rest.length < FrameHeader.size) :
    (attach path settings ceiling (logFile records ++ rest)).answer =
        .error (fault.failure (FileHeader.size + framesSize records)) ∧
      (attach path settings ceiling (logFile records ++ rest)).file =
        logFile records ++ rest := by
  have recovered := recover_logFile_append ceiling acceptable stops
  rw [strict, settleTail_strict_of_long records stops long] at recovered
  obtain ⟨refused, kept⟩ := attach_of_error path (congrArg Attachment.answer recovered)
  exact ⟨refused, kept.trans (congrArg Attachment.file recovered)⟩

end

theorem Handle.attach_eq_ok {path : String} {settings : Settings} {ceiling : Option Nat}
    {file : Bytes} {handle : Handle}
    (opened : (attach path settings ceiling file).answer = .ok handle) :
    handle.settings = settings ∧ handle.closed = false ∧
      ∃ records dangling,
        handle.Mirrors (attach path settings ceiling file).file records dangling ∧
        (dangling = [] ∨ settings.tailPolicy = .strict) := by
  cases answered : (recover settings ceiling file).answer with
  | error failure =>
      rw [(attach_of_error path answered).1] at opened
      cases opened
  | ok recovered =>
      obtain ⟨attached, after⟩ := attach_of_ok path answered
      rw [attached] at opened
      cases opened
      obtain ⟨records, dangling, report, rfl, kept, acceptable, short, policy⟩ :=
        recover_eq_ok answered
      rw [after, kept]
      exact ⟨rfl, rfl, records, dangling, mirrors_restored path report acceptable short, policy⟩

/-! ## Opening again -/

/-- A handle that was just opened reads these payloads back, and reports them and no
mismatch. -/
structure Handle.Restores (handle : Handle) (file : Bytes) (payloads : List Bytes)
    (wasTruncated : Bool) : Prop where
  readBack : (handle.readAll file).answer = .ok payloads
  lastIndex : handle.lastIndex = payloads.length
  recovered : handle.report.recordsRecovered = payloads.length
  corrupted : handle.report.recordsCorrupted = 0
  truncated : handle.report.wasTruncated = wasTruncated

def Attachment.Recovers (attachment : Attachment Handle) (payloads : List Bytes)
    (wasTruncated : Bool) : Prop :=
  ∃ handle, attachment.answer = .ok handle ∧
    handle.Restores attachment.file payloads wasTruncated

section

variable {settings : Settings} {records : List Record}

theorem Attachment.recovers_restored {attachment : Attachment Handle} {path : String}
    {report : Report} {dangling : Bytes}
    (acceptable : ∀ record ∈ records, record.Acceptable settings.maxPayloadSize)
    (short : dangling.length < FrameHeader.size)
    (opened : attachment.answer = .ok (.restored path settings records report))
    (kept : attachment.file = logFile records ++ dangling)
    (recovered : report.recordsRecovered = records.length)
    (corrupted : report.recordsCorrupted = 0) :
    attachment.Recovers (records.map Record.payload) report.wasTruncated := by
  have mirrors := Handle.mirrors_restored path report acceptable short
  have count : (records.map Record.payload).length = records.length := List.length_map _
  refine ⟨_, opened, ?_, ?_, recovered.trans count.symm, corrupted, rfl⟩
  · rw [kept, mirrors.readAll_eq rfl]
  · exact mirrors.length_eq.trans count.symm

theorem Handle.attach_nil (path : String) (settings : Settings) {ceiling : Option Nat}
    (permitted : Permits ceiling FileHeader.size) :
    (attach path settings ceiling []).answer =
        .ok (restored path settings [] (.intact [])) ∧
      (attach path settings ceiling []).file = logFile [] := by
  have short : ([] : Bytes).length < FileHeader.size := Nat.zero_lt_succ _
  have started := recover_nil settings ceiling
  rw [startLog_of_permits short permitted] at started
  obtain ⟨opened, after⟩ := attach_of_ok path (congrArg Attachment.answer started)
  exact ⟨opened, after.trans (congrArg Attachment.file started)⟩

/-- Under either policy a whole log is opened as it stands. -/
theorem Handle.attach_whole (path : String) (ceiling : Option Nat)
    (acceptable : ∀ record ∈ records, record.Acceptable settings.maxPayloadSize) :
    (attach path settings ceiling (logFile records)).answer =
        .ok (restored path settings records (.intact records)) ∧
      (attach path settings ceiling (logFile records)).file = logFile records := by
  have whole := List.append_nil (logFile records)
  cases policy : settings.tailPolicy with
  | truncate =>
      have attached := attach_truncate path ceiling policy acceptable
        (readFrame_eq_absent_iff.mpr (Eq.refl []))
      rwa [whole] at attached
  | strict =>
      have nothing : ([] : Bytes).length < FrameHeader.size := Nat.zero_lt_succ _
      have attached := attach_strict_of_short path ceiling policy acceptable nothing
      rwa [whole] at attached

theorem Handle.attach_logFile (path : String) (ceiling : Option Nat)
    (acceptable : ∀ record ∈ records, record.Acceptable settings.maxPayloadSize) :
    (attach path settings ceiling (logFile records)).Recovers (records.map Record.payload)
        false ∧
      (attach path settings ceiling (logFile records)).file = logFile records := by
  have nothing : ([] : Bytes).length < FrameHeader.size := Nat.zero_lt_succ _
  obtain ⟨opened, kept⟩ := attach_whole path ceiling acceptable
  exact ⟨Attachment.recovers_restored acceptable nothing opened
    (kept.trans (List.append_nil _).symm) rfl rfl, kept⟩

/-- Repair recovers the records in front of a fault that is no mismatch, and leaves a whole
log. -/
theorem Handle.attach_cut (path : String) (ceiling : Option Nat)
    (repairing : settings.tailPolicy = .truncate)
    (acceptable : ∀ record ∈ records, record.Acceptable settings.maxPayloadSize)
    {rest : Bytes} {fault : Fault} (stops : readFrame settings.maxPayloadSize rest = .error fault)
    (occupied : fault ≠ .absent) (matching : fault.isMismatch = false) :
    (attach path settings ceiling (logFile records ++ rest)).Recovers
        (records.map Record.payload) true ∧
      (attach path settings ceiling (logFile records ++ rest)).file = logFile records := by
  have nothing : ([] : Bytes).length < FrameHeader.size := Nat.zero_lt_succ _
  obtain ⟨opened, kept⟩ := attach_truncate path ceiling repairing acceptable stops
  have corrupted : (Scan.mk records fault).report.recordsCorrupted = 0 :=
    if_neg (ne_true_of_eq_false matching)
  have truncated : (Scan.mk records fault).report.wasTruncated = true := decide_eq_true occupied
  have recovers := Attachment.recovers_restored acceptable nothing opened
    (kept.trans (List.append_nil _).symm) rfl corrupted
  rw [truncated] at recovers
  exact ⟨recovers, kept⟩

end

end FrameLog
