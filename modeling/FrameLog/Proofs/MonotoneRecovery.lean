import FrameLog.Proofs.Recovery

/-!
# More octets and larger limits

What is recovered from a file is a list of records, each at the offset where its frame
starts. A frame that was verified once is verified again whatever is written behind it, and
under every larger limit, so the list only ever gets longer. Behind a log that ends cleanly
the octets are taken apart as they would be in a file of their own.

Main statement: recovery is monotone in the file and in the limit, and a file that ends
cleanly can be recovered part by part.
-/

set_option autoImplicit false

namespace FrameLog

/-! ## Scans of longer octets -/

theorem Record.Acceptable.mono {limit larger : UInt32} {record : Record}
    (acceptable : record.Acceptable limit) (grows : limit ≤ larger) :
    record.Acceptable larger where
  within := Nat.le_trans acceptable.within (UInt32.le_iff_toNat_le.mp grows)
  sound := acceptable.sound

theorem scan_records_prefix {limit larger : UInt32} {octets longer : Bytes}
    (grows : limit ≤ larger) (begins : octets <+: longer) :
    (scan limit octets).records <+: (scan larger longer).records := by
  obtain ⟨behind, rfl⟩ := begins
  obtain ⟨rest, parted, _⟩ := parted_scan limit octets
  have acceptable : ∀ record ∈ (scan limit octets).records, record.Acceptable larger :=
    fun record member => (parted.acceptable record member).mono grows
  have parts : octets ++ behind = frames (scan limit octets).records ++ (rest ++ behind) := by
    rw [← List.append_assoc, ← parted.joined]
  rw [parts, scan_frames_append acceptable]
  exact List.prefix_append _ _

/-- A scan that came to the end of the octets goes on behind them as a new one would. -/
theorem scan_append_of_absent {limit : UInt32} {octets : Bytes}
    (clean : (scan limit octets).fault = .absent) (behind : Bytes) :
    scan limit (octets ++ behind) =
      ⟨(scan limit octets).records ++ (scan limit behind).records,
        (scan limit behind).fault⟩ := by
  obtain ⟨rest, parted, stops⟩ := parted_scan limit octets
  have ends : rest = [] := readFrame_eq_absent_iff.mp (clean ▸ stops)
  have whole : octets = frames (scan limit octets).records := by
    simpa [ends] using parted.joined
  calc scan limit (octets ++ behind)
      = scan limit (frames (scan limit octets).records ++ behind) := by rw [← whole]
    _ = _ := scan_frames_append parted.acceptable behind

theorem framesSize_of_absent {limit : UInt32} {octets : Bytes}
    (clean : (scan limit octets).fault = .absent) :
    framesSize (scan limit octets).records = octets.length := by
  obtain ⟨rest, parted, stops⟩ := parted_scan limit octets
  have ends : rest = [] := readFrame_eq_absent_iff.mp (clean ▸ stops)
  have lengths := congrArg List.length parted.joined
  simpa [ends] using lengths.symm

/-! ## Records in their places -/

structure Located where
  offset : Nat
  record : Record
  deriving DecidableEq, Repr

namespace Located

/-- The same record so much further back in a file. -/
def moved (distance : Nat) (located : Located) : Located :=
  { located with offset := located.offset + distance }

def inRow (offset : Nat) : List Record → List Located
  | [] => []
  | record :: records => ⟨offset, record⟩ :: inRow (offset + record.frameSize) records

def soundEnd (found : List Located) : Nat :=
  FileHeader.size + framesSize (found.map Located.record)

@[simp] theorem map_offset_inRow (offset : Nat) (records : List Record) :
    (inRow offset records).map Located.offset = frameOffsets offset records := by
  induction records generalizing offset with
  | nil => rfl
  | cons record records ih => simp [inRow, frameOffsets, ih]

@[simp] theorem map_record_inRow (offset : Nat) (records : List Record) :
    (inRow offset records).map Located.record = records := by
  induction records generalizing offset with
  | nil => rfl
  | cons record records ih => simp [inRow, ih]

@[simp] theorem length_inRow (offset : Nat) (records : List Record) :
    (inRow offset records).length = records.length := by
  calc (inRow offset records).length
      = ((inRow offset records).map Located.record).length := (List.length_map _).symm
    _ = records.length := by rw [map_record_inRow]

theorem inRow_append (offset : Nat) (earlier later : List Record) :
    inRow offset (earlier ++ later) =
      inRow offset earlier ++ inRow (offset + framesSize earlier) later := by
  induction earlier generalizing offset with
  | nil => rfl
  | cons record earlier ih => simp [inRow, framesSize, ih, Nat.add_assoc]

theorem inRow_add (offset distance : Nat) (records : List Record) :
    inRow (offset + distance) records = (inRow offset records).map (moved distance) := by
  induction records generalizing offset with
  | nil => rfl
  | cons record records ih =>
      have behind := ih (offset + record.frameSize)
      simp only [Nat.add_right_comm offset] at behind
      simp only [inRow, List.map_cons, moved, behind]

/-- Nothing more is known of a located record than its place and what stands there. -/
theorem eq_of_maps {found other : List Located}
    (offsets : found.map Located.offset = other.map Located.offset)
    (records : found.map Located.record = other.map Located.record) : found = other := by
  induction found generalizing other with
  | nil =>
      cases other with
      | nil => rfl
      | cons one other => cases offsets
  | cons one found ih =>
      cases other with
      | nil => cases offsets
      | cons two other =>
          simp only [List.map_cons, List.cons.injEq] at offsets records
          rcases one with ⟨offset, record⟩
          rcases two with ⟨offset', record'⟩
          obtain ⟨rfl, offsets⟩ := offsets
          obtain ⟨rfl, records⟩ := records
          rw [ih offsets records]

theorem length_le_of_append (found more : List Located) :
    found.length ≤ (found ++ more).length ∧ soundEnd found ≤ soundEnd (found ++ more) := by
  constructor
  · simp
  · simp only [soundEnd, List.map_append, framesSize_append]
    omega

end Located

/-! ## What is recovered -/

/-- The handle knows these records, finds each of them where it looks for it, and has
reported them. -/
structure Handle.Knows (handle : Handle) (file : Bytes) (found : List Located) : Prop where
  offsets : handle.positions.offsets = found.map Located.offset
  standing : found.map (fun one =>
      readFrameAt handle.settings.maxPayloadSize file one.offset) =
    found.map fun one => .ok one.record
  lastIndex : handle.lastIndex = found.length
  writeOffset : handle.writeOffset = Located.soundEnd found
  recovered : handle.report.recordsRecovered = found.length
  reported : handle.report.lastIndex = found.length
  validBytes : handle.report.validBytes = Located.soundEnd found

/-- Opening the file under this limit recovers these records in these places: always under
the policy that repairs, and under either policy if the file is opened at all. -/
structure RecoversAs (limit : UInt32) (file : Bytes) (found : List Located) : Prop where
  repaired : ∀ path (settings : Settings) ceiling, settings.maxPayloadSize = limit →
    settings.tailPolicy = .truncate →
    ∃ handle, (Handle.attach path settings ceiling file).answer = .ok handle
  known : ∀ path (settings : Settings) ceiling handle, settings.maxPayloadSize = limit →
    (Handle.attach path settings ceiling file).answer = .ok handle →
    handle.Knows (Handle.attach path settings ceiling file).file found

theorem Handle.Knows.unique {handle : Handle} {file : Bytes} {found other : List Located}
    (knows : handle.Knows file found) (again : handle.Knows file other) : other = found := by
  have offsets := again.offsets.symm.trans knows.offsets
  have standing : other.map (fun one => (.ok one.record : Except Fault Record)) =
      found.map fun one => .ok one.record := by
    calc other.map (fun one => (.ok one.record : Except Fault Record))
        = (other.map Located.offset).map (readFrameAt handle.settings.maxPayloadSize file) := by
          rw [List.map_map, ← again.standing]
          rfl
      _ = (found.map Located.offset).map (readFrameAt handle.settings.maxPayloadSize file) := by
          rw [offsets]
      _ = found.map fun one => .ok one.record := by
          rw [List.map_map, ← knows.standing]
          rfl
  have ofRecords : ∀ list : List Located,
      list.map (fun one => (.ok one.record : Except Fault Record)) =
        (list.map Located.record).map .ok := fun list => (List.map_map).symm
  rw [ofRecords, ofRecords, List.map_inj_right fun _ _ same => Except.ok.inj same] at standing
  exact Located.eq_of_maps offsets standing

theorem RecoversAs.unique {limit : UInt32} {file : Bytes} {found other : List Located}
    (recovers : RecoversAs limit file found) (again : RecoversAs limit file other) :
    other = found := by
  have settings : ({ maxPayloadSize := limit } : Settings).maxPayloadSize = limit := rfl
  obtain ⟨handle, opened⟩ := recovers.repaired "" _ none settings rfl
  exact (recovers.known _ _ _ handle settings opened).unique
    (again.known _ _ _ handle settings opened)

section

variable {settings : Settings} {records : List Record} {rest : Bytes} {fault : Fault}

theorem Handle.knows_restored (path : String) (report : Report) {dangling : Bytes}
    (acceptable : ∀ record ∈ records, record.Acceptable settings.maxPayloadSize)
    (short : dangling.length < FrameHeader.size)
    (recovered : report.recordsRecovered = records.length)
    (reported : report.lastIndex = records.length)
    (validBytes : report.validBytes = FileHeader.size + framesSize records) :
    (restored path settings records report).Knows (logFile records ++ dangling)
      (Located.inRow FileHeader.size records) := by
  have mirrors := mirrors_restored path report acceptable short
  have soundEnd : Located.soundEnd (Located.inRow FileHeader.size records) =
      FileHeader.size + framesSize records := by
    simp only [Located.soundEnd, Located.map_record_inRow]
  have offsets := mirrors.offsets.trans (Located.map_offset_inRow FileHeader.size records).symm
  have standing := mirrors.map_readFrameAt
  rw [offsets, List.map_map, ← congrArg (List.map Except.ok)
    (Located.map_record_inRow FileHeader.size records), List.map_map] at standing
  exact {
    offsets := offsets
    standing := standing
    lastIndex := mirrors.length_eq.trans (Located.length_inRow _ _).symm
    writeOffset := mirrors.writeOffset.trans soundEnd.symm
    recovered := recovered.trans (Located.length_inRow _ _).symm
    reported := reported.trans (Located.length_inRow _ _).symm
    validBytes := validBytes.trans soundEnd.symm }

theorem Handle.knows_of_attach {path : String} {ceiling : Option Nat} {handle : Handle}
    (acceptable : ∀ record ∈ records, record.Acceptable settings.maxPayloadSize)
    (stops : readFrame settings.maxPayloadSize rest = .error fault)
    (opened : (attach path settings ceiling (logFile records ++ rest)).answer = .ok handle) :
    handle.Knows (attach path settings ceiling (logFile records ++ rest)).file
      (Located.inRow FileHeader.size records) := by
  cases policy : settings.tailPolicy with
  | truncate =>
      obtain ⟨answered, kept⟩ := attach_truncate path ceiling policy acceptable stops
      cases answered.symm.trans opened
      have nothing : ([] : Bytes).length < FrameHeader.size := Nat.zero_lt_succ _
      have knows := knows_restored path (Scan.mk records fault).report acceptable nothing rfl rfl
        rfl
      rwa [kept, ← List.append_nil (logFile records)]
  | strict =>
      by_cases short : rest.length < FrameHeader.size
      · obtain ⟨answered, kept⟩ := attach_strict_of_short path ceiling policy acceptable short
        cases answered.symm.trans opened
        rw [kept]
        exact knows_restored path _ acceptable short rfl rfl rfl
      · obtain ⟨refused, _⟩ :=
          attach_strict_of_long path ceiling policy acceptable stops short
        cases refused.symm.trans opened

end

theorem recoversAs_scanFile (limit : UInt32) {file : Bytes}
    (headed : FileHeader.current.encode <+: file) :
    RecoversAs limit file (Located.inRow FileHeader.size (scanFile limit file).records) := by
  obtain ⟨records, rest, fault, rfl, parted, stops⟩ := exists_logFile_append limit headed
  have scanned := scanFile_logFile_append parted.acceptable stops
  simp only [scanned]
  constructor
  · rintro path settings ceiling rfl repairing
    exact ⟨_, (Handle.attach_truncate path ceiling repairing parted.acceptable stops).1⟩
  · rintro path settings ceiling handle rfl opened
    exact Handle.knows_of_attach parted.acceptable stops opened

/-! ## Longer files -/

section

variable {limit larger : UInt32} {file longer : Bytes}

theorem scanFile_header_append (limit : UInt32) (behind : Bytes) :
    scanFile limit (FileHeader.current.encode ++ behind) = scan limit behind := by
  rw [scanFile, List.drop_left' (FileHeader.length_encode _)]

theorem recoversAs_of_prefix (headed : FileHeader.current.encode <+: file)
    (begins : file <+: longer) (grows : limit ≤ larger) :
    ∃ more, RecoversAs larger longer
      (Located.inRow FileHeader.size (scanFile limit file).records ++ more) := by
  have leading : (scanFile limit file).records <+: (scanFile larger longer).records := by
    obtain ⟨octets, rfl⟩ := headed
    obtain ⟨behind, rfl⟩ := begins
    simp only [List.append_assoc, scanFile_header_append]
    exact scan_records_prefix grows (List.prefix_append octets behind)
  obtain ⟨later, joined⟩ := leading
  have recovers := recoversAs_scanFile larger (headed.trans begins)
  rw [← joined, Located.inRow_append] at recovers
  exact ⟨_, recovers⟩

theorem scanFile_append_of_absent (headed : FileHeader.current.encode <+: file)
    (clean : (scanFile limit file).fault = .absent) (behind : Bytes) :
    scanFile limit (file ++ behind) =
      ⟨(scanFile limit file).records ++
          (scanFile limit (FileHeader.current.encode ++ behind)).records,
        (scanFile limit (FileHeader.current.encode ++ behind)).fault⟩ := by
  obtain ⟨octets, rfl⟩ := headed
  simp only [List.append_assoc, scanFile_header_append] at clean ⊢
  exact scan_append_of_absent clean behind

theorem soundEnd_of_absent (headed : FileHeader.current.encode <+: file)
    (clean : (scanFile limit file).fault = .absent) :
    FileHeader.size + framesSize (scanFile limit file).records = file.length := by
  obtain ⟨octets, rfl⟩ := headed
  simp only [scanFile_header_append] at clean ⊢
  rw [framesSize_of_absent clean, List.length_append, FileHeader.length_encode]

/-- Behind a file that ends cleanly, octets are recovered as they are behind a header, so
much further back. -/
theorem recoversAs_append_of_absent (headed : FileHeader.current.encode <+: file)
    (clean : (scanFile limit file).fault = .absent) (behind : Bytes) :
    RecoversAs limit (file ++ behind)
      (Located.inRow FileHeader.size (scanFile limit file).records ++
        (Located.inRow FileHeader.size
          (scanFile limit (FileHeader.current.encode ++ behind)).records).map
            (.moved (file.length - FileHeader.size))) := by
  have recovers := recoversAs_scanFile limit (headed.trans (List.prefix_append file behind))
  have ends := soundEnd_of_absent headed clean
  have distance : framesSize (scanFile limit file).records = file.length - FileHeader.size := by
    omega
  rw [scanFile_append_of_absent headed clean, Located.inRow_append, distance,
    Located.inRow_add] at recovers
  exact recovers

/-- Up to where its sound part ends, a file ends cleanly. -/
theorem take_soundEnd (limit : UInt32) (headed : FileHeader.current.encode <+: file) :
    let sound := file.take (scanFile limit file).soundEnd
    FileHeader.current.encode <+: sound ∧
      scanFile limit sound = ⟨(scanFile limit file).records, .absent⟩ := by
  obtain ⟨records, rest, fault, rfl, parted, stops⟩ := exists_logFile_append limit headed
  have scanned := scanFile_logFile_append parted.acceptable stops
  have whole := scanFile_logFile_append parted.acceptable
    (readFrame_eq_absent_iff.mpr (Eq.refl []))
  rw [List.append_nil] at whole
  simp only [scanned, Scan.soundEnd, ← length_logFile, List.take_left]
  exact ⟨List.prefix_append _ _, whole⟩

end

/-- What is recovered from a file is recovered from every file that starts with it, under
every larger limit, and nothing in front of it or between. If the file ends cleanly, what
is written behind it is recovered as from a file of its own, and ends as that one does. So
nothing that is written behind the sound part of a file takes a record away. -/
theorem recovery_grows_with_file_and_limit (limit : UInt32) (file : Bytes)
    (headed : FileHeader.current.encode <+: file) :
    ∃ found, RecoversAs limit file found ∧
      (∀ other, RecoversAs limit file other → other = found) ∧
      (∀ longer larger, file <+: longer → limit ≤ larger →
        ∃ more, RecoversAs larger longer (found ++ more) ∧
          found.length ≤ (found ++ more).length ∧
          Located.soundEnd found ≤ Located.soundEnd (found ++ more)) ∧
      ((scanFile limit file).fault = .absent → ∀ behind,
        let own := FileHeader.current.encode ++ behind
        ∃ others, RecoversAs limit own others ∧
          RecoversAs limit (file ++ behind)
            (found ++ others.map (.moved (file.length - FileHeader.size))) ∧
          (scanFile limit (file ++ behind)).fault = (scanFile limit own).fault) ∧
      ∀ behind, ∃ more,
        RecoversAs limit (file.take (Located.soundEnd found) ++ behind) (found ++ more) := by
  have recovers := recoversAs_scanFile limit headed
  refine ⟨_, recovers, fun _ again => recovers.unique again, ?_, ?_, ?_⟩
  · intro longer larger begins grows
    obtain ⟨more, recovers⟩ := recoversAs_of_prefix headed begins grows
    exact ⟨more, recovers, Located.length_le_of_append _ more⟩
  · intro clean behind own
    refine ⟨_, recoversAs_scanFile limit (List.prefix_append _ behind),
      recoversAs_append_of_absent headed clean behind, ?_⟩
    rw [scanFile_append_of_absent headed clean]
  · intro behind
    obtain ⟨stillHeaded, scanned⟩ := take_soundEnd limit headed
    have recovers := recoversAs_append_of_absent stillHeaded (congrArg Scan.fault scanned) behind
    rw [scanned] at recovers
    have reaches : Located.soundEnd (Located.inRow FileHeader.size (scanFile limit file).records) =
        (scanFile limit file).soundEnd := by
      simp only [Located.soundEnd, Located.map_record_inRow, Scan.soundEnd]
    rw [reaches]
    exact ⟨_, recovers⟩

/-- Behind the only record stands either a record that is over the limit, and is recovered
under a larger one, or another record and two octets that are no frame. -/
theorem recovery_grows_past_record_over_limit :
    let file := logFile [.ofPayload [1, 2]]
    let behind := (Record.ofPayload [3]).encode ++ [9, 9]
    FileHeader.current.encode <+: file ∧
    (scanFile 2 file).fault = .absent ∧
    RecoversAs 2 file [⟨8, .ofPayload [1, 2]⟩] ∧
    (∃ more, RecoversAs 3 (file ++ (Record.ofPayload [7, 8, 9]).encode)
      (⟨8, .ofPayload [1, 2]⟩ :: more)) ∧
    RecoversAs 2 (file ++ behind) [⟨8, .ofPayload [1, 2]⟩, ⟨19, .ofPayload [3]⟩] ∧
    (scanFile 2 (file ++ behind)).fault = .partialHeader 2 := by
  intro file behind
  have headed : ∀ rest : Bytes, FileHeader.current.encode <+:
      FileHeader.current.encode ++ rest := List.prefix_append _
  have first : ∀ record ∈ ([[1, 2]] : List Bytes).map Record.ofPayload, record.Acceptable 2 :=
    Record.acceptable_map_ofPayload (by decide)
  have second : ∀ record ∈ ([[3]] : List Bytes).map Record.ofPayload, record.Acceptable 2 :=
    Record.acceptable_map_ofPayload (by decide)
  have clean : scanFile 2 file = ⟨[.ofPayload [1, 2]], .absent⟩ := by
    have scanned := scanFile_logFile_append first (readFrame_eq_absent_iff.mpr (Eq.refl []))
    rwa [List.append_nil] at scanned
  have own : scanFile 2 (FileHeader.current.encode ++ behind) =
      ⟨[.ofPayload [3]], .partialHeader 2⟩ :=
    scanFile_logFile_append second (readFrame_short (by decide) (by decide))
  have ownRecovers := recoversAs_scanFile 2 (headed behind)
  rw [own] at ownRecovers
  obtain ⟨found, recovers, only, grows, continues, _⟩ :=
    recovery_grows_with_file_and_limit 2 file (headed _)
  have located := recoversAs_scanFile 2 (headed (frames [.ofPayload [1, 2]]))
  rw [show scanFile 2 (_ ++ frames [.ofPayload [1, 2]]) = _ from clean] at located
  obtain rfl := only _ located
  obtain ⟨more, longer, _⟩ := grows _ 3 (List.prefix_append _ _) (by decide)
  obtain ⟨others, recovered, both, ends⟩ := continues (congrArg Scan.fault clean) behind
  obtain rfl := recovered.unique ownRecovers
  exact ⟨headed _, congrArg Scan.fault clean, recovers, ⟨more, longer⟩, both,
    ends.trans (congrArg Scan.fault own)⟩

end FrameLog
