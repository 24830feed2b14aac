import FrameLog.Proofs.Reading

/-!
# The extent of a log

Frames lie one behind the other, so where each starts is determined by the sizes of those
in front of it, and octets come apart into acceptable frames and a rest that does not begin
with another one in exactly one way. `Parted` says what such a way is.

Main statements: a scan finds the one way there is, and a leading part of a log comes apart
into the frames that are whole in it and a rest at which no checksum is ever compared.
-/

set_option autoImplicit false

namespace FrameLog

/-! ## Where frames start -/

theorem framesSize_append (earlier later : List Record) :
    framesSize (earlier ++ later) = framesSize earlier + framesSize later := by
  induction earlier with
  | nil => simp [framesSize]
  | cons record earlier ih => simp [framesSize, ih, Nat.add_assoc]

theorem frameOffsets_append (offset : Nat) (earlier later : List Record) :
    frameOffsets offset (earlier ++ later) =
      frameOffsets offset earlier ++ frameOffsets (offset + framesSize earlier) later := by
  induction earlier generalizing offset with
  | nil => rfl
  | cons record earlier ih =>
      simp only [List.cons_append, frameOffsets, framesSize, ih, Nat.add_assoc]

theorem getElem?_frameOffsets {records : List Record} {before : Nat}
    (present : before < records.length) (offset : Nat) :
    (frameOffsets offset records)[before]? = some (offset + framesSize (records.take before)) := by
  induction records generalizing offset before with
  | nil => simp at present
  | cons record records ih =>
      cases before with
      | zero => rfl
      | succ before =>
          have fewer : before < records.length := by simpa using present
          rw [frameOffsets, List.getElem?_cons_succ, ih fewer, List.take_succ_cons, framesSize,
            Nat.add_assoc]

theorem take_frameOffsets (offset count : Nat) (records : List Record) :
    (frameOffsets offset records).take count = frameOffsets offset (records.take count) := by
  induction records generalizing offset count with
  | nil => simp [frameOffsets]
  | cons record records ih =>
      cases count with
      | zero => rfl
      | succ count => simp only [frameOffsets, List.take_succ_cons, ih]

theorem framesSize_take_succ {records : List Record} {before : Nat} {record : Record}
    (found : records[before]? = some record) :
    framesSize (records.take (before + 1)) =
      framesSize (records.take before) + record.frameSize := by
  rw [List.take_add_one, found, framesSize_append]
  rfl

@[simp] theorem length_logFile (records : List Record) :
    (logFile records).length = FileHeader.size + framesSize records := by
  simp [logFile]

theorem logFile_append (earlier later : List Record) :
    logFile (earlier ++ later) = logFile earlier ++ frames later := by
  simp [logFile]

theorem logFile_parts {records : List Record} {record : Record} {before : Nat}
    (standing : records[before]? = some record) :
    logFile records = logFile (records.take before) ++
      (record.encode ++ frames (records.drop (before + 1))) := by
  obtain ⟨present, rfl⟩ := List.getElem?_eq_some_iff.mp standing
  rw [← frames_cons, ← List.drop_eq_getElem_cons present, ← logFile_append,
    List.take_append_drop]

theorem frameOffsets_parts {records : List Record} {record : Record} {before : Nat}
    (standing : records[before]? = some record) (offset : Nat) :
    frameOffsets offset records = frameOffsets offset (records.take before) ++
      (offset + framesSize (records.take before)) ::
        frameOffsets (offset + framesSize (records.take before) + record.frameSize)
          (records.drop (before + 1)) := by
  obtain ⟨present, rfl⟩ := List.getElem?_eq_some_iff.mp standing
  have parts := frameOffsets_append offset (records.take before) (records.drop before)
  rw [List.take_append_drop, List.drop_eq_getElem_cons present] at parts
  exact parts

theorem drop_size_logFile (records : List Record) (behind : Bytes) :
    (logFile records ++ behind).drop FileHeader.size = frames records ++ behind := by
  rw [logFile, List.append_assoc]
  exact List.drop_left' (FileHeader.length_encode FileHeader.current)

theorem drop_size_whole_logFile (records : List Record) :
    (logFile records).drop FileHeader.size = frames records ++ [] := by
  rw [← drop_size_logFile, List.append_nil]

theorem scanFile_logFile_append {limit : UInt32} {records : List Record} {rest : Bytes}
    {fault : Fault} (acceptable : ∀ record ∈ records, record.Acceptable limit)
    (stops : readFrame limit rest = .error fault) :
    scanFile limit (logFile records ++ rest) = ⟨records, fault⟩ := by
  rw [scanFile, drop_size_logFile]
  exact scan_eq_iff.mpr ⟨acceptable, rest, rfl, stops⟩

theorem drop_frameOffset {file rest : Bytes} {records : List Record} {offset : Nat}
    (stands : file.drop offset = frames records ++ rest) (before : Nat) :
    file.drop (offset + framesSize (records.take before)) =
      frames (records.drop before) ++ rest := by
  have parts : frames records = frames (records.take before) ++ frames (records.drop before) := by
    rw [← frames_append, List.take_append_drop]
  rw [← List.drop_drop, stands, parts, List.append_assoc, ← length_frames, List.drop_left]

theorem drop_frameOffset_of_getElem? {file rest : Bytes} {records : List Record} {offset : Nat}
    (stands : file.drop offset = frames records ++ rest) {before : Nat} {record : Record}
    (found : records[before]? = some record) :
    ∃ behind, file.drop (offset + framesSize (records.take before)) =
      record.encode ++ behind := by
  obtain ⟨present, rfl⟩ := List.getElem?_eq_some_iff.mp found
  rw [drop_frameOffset stands, List.drop_eq_getElem_cons present, frames_cons,
    List.append_assoc]
  exact ⟨_, rfl⟩

theorem take_acceptable {limit : UInt32} {records : List Record}
    (acceptable : ∀ record ∈ records, record.Acceptable limit) (count : Nat) :
    ∀ record ∈ records.take count, record.Acceptable limit := by
  intro record member
  exact acceptable record (List.mem_of_mem_take member)

/-- Where a frame starts, its record is read if it is sound, and found out if it is not. -/
theorem readFrameAt_frameOffset_of_within {limit : UInt32} {file rest : Bytes}
    {records : List Record} {offset : Nat}
    (stands : file.drop offset = frames records ++ rest) {before : Nat} {record : Record}
    (found : records[before]? = some record) (within : record.payload.length ≤ limit.toNat) :
    readFrameAt limit file (offset + framesSize (records.take before)) =
      if record.Sound then .ok record
      else .error (.mismatch record.checksum (frameChecksum record.tag record.payload)) := by
  obtain ⟨behind, parts⟩ := drop_frameOffset_of_getElem? stands found
  rw [readFrameAt, parts]
  exact readFrame_whole within behind

theorem readFrameAt_frameOffset {limit : UInt32} {file rest : Bytes} {records : List Record}
    {offset : Nat} (acceptable : ∀ record ∈ records, record.Acceptable limit)
    (stands : file.drop offset = frames records ++ rest) {before : Nat} {record : Record}
    (found : records[before]? = some record) :
    readFrameAt limit file (offset + framesSize (records.take before)) = .ok record := by
  have accepted := acceptable record (List.mem_of_getElem? found)
  rw [readFrameAt_frameOffset_of_within stands found accepted.within, if_pos accepted.sound]

theorem map_readFrameAt_frameOffsets {limit : UInt32} {file rest : Bytes}
    {records : List Record} {offset : Nat}
    (acceptable : ∀ record ∈ records, record.Acceptable limit)
    (stands : file.drop offset = frames records ++ rest) :
    (frameOffsets offset records).map (readFrameAt limit file) = records.map .ok := by
  apply List.ext_getElem?
  intro before
  rw [List.getElem?_map, List.getElem?_map]
  cases found : records[before]? with
  | none =>
      have missing : (frameOffsets offset records)[before]? = none := by
        rw [List.getElem?_eq_none_iff] at found ⊢
        simpa using found
      rw [missing]
      rfl
  | some record =>
      obtain ⟨present, _⟩ := List.getElem?_eq_some_iff.mp found
      rw [getElem?_frameOffsets present, Option.map_some,
        readFrameAt_frameOffset acceptable stands found]
      rfl

/-! ## Taking octets apart -/

/-- The octets are these frames and a rest that does not begin with another frame that a
reader with this limit accepts. -/
structure Parted (limit : UInt32) (octets : Bytes) (records : List Record) (rest : Bytes) :
    Prop where
  joined : octets = frames records ++ rest
  acceptable : ∀ record ∈ records, record.Acceptable limit
  maximal : ∀ record : Record, record.Acceptable limit → ¬ record.encode <+: rest

theorem readFrame_eq_ok_iff_begins {limit : UInt32} {octets : Bytes} {record : Record} :
    readFrame limit octets = .ok record ↔
      record.Acceptable limit ∧ record.encode <+: octets := by
  rw [readFrame_eq_ok_iff]
  constructor
  · rintro ⟨within, sound, rest, rfl⟩
    exact ⟨⟨within, sound⟩, List.prefix_append _ _⟩
  · rintro ⟨acceptable, rest, rfl⟩
    exact ⟨acceptable.within, acceptable.sound, rest, rfl⟩

theorem parted_scan (limit : UInt32) (octets : Bytes) :
    ∃ rest, Parted limit octets (scan limit octets).records rest ∧
      readFrame limit rest = .error (scan limit octets).fault := by
  obtain ⟨acceptable, rest, joined, stops⟩ :=
    scan_eq_iff.mp (show scan limit octets = ⟨_, _⟩ from rfl)
  refine ⟨rest, ⟨joined, acceptable, ?_⟩, stops⟩
  intro record recordAcceptable begins
  have read := readFrame_eq_ok_iff_begins.mpr ⟨recordAcceptable, begins⟩
  rw [stops] at read
  cases read

theorem Parted.eq_scan {limit : UInt32} {octets rest : Bytes} {records : List Record}
    (parted : Parted limit octets records rest) :
    (scan limit octets).records = records ∧
      readFrame limit rest = .error (scan limit octets).fault := by
  cases read : readFrame limit rest with
  | ok record =>
      obtain ⟨acceptable, begins⟩ := readFrame_eq_ok_iff_begins.mp read
      exact absurd begins (parted.maximal record acceptable)
  | error fault =>
      have scanned : scan limit octets = ⟨records, fault⟩ :=
        scan_eq_iff.mpr ⟨parted.acceptable, rest, parted.joined, read⟩
      rw [scanned]
      exact ⟨rfl, rfl⟩

theorem Parted.unique {limit : UInt32} {octets rest other : Bytes} {records others : List Record}
    (parted : Parted limit octets records rest) (again : Parted limit octets others other) :
    others = records ∧ other = rest := by
  have same : others = records := by rw [← parted.eq_scan.1, again.eq_scan.1]
  subst same
  exact ⟨rfl, List.append_cancel_left (again.joined.symm.trans parted.joined)⟩

/-! ## Leading parts of a log -/

/-- However much of these octets survives, no frame is found in them and no checksum is
found wrong. -/
def Unfinished (limit : UInt32) (octets : Bytes) : Prop :=
  ∀ cut, ∃ fault, readFrame limit (octets.take cut) = .error fault ∧ fault.isMismatch = false

theorem unfinished_of_short (limit : UInt32) {octets : Bytes}
    (short : octets.length < FrameHeader.size) : Unfinished limit octets := by
  intro cut
  by_cases empty : octets.take cut = []
  · rw [empty]
    exact ⟨.absent, rfl, rfl⟩
  · have shorter : (octets.take cut).length < FrameHeader.size := by
      rw [List.length_take]
      omega
    exact ⟨_, readFrame_short empty shorter, rfl⟩

theorem unfinished_take_encode {limit : UInt32} {record : Record}
    (within : record.payload.length ≤ limit.toNat) {count : Nat}
    (broken : count < record.frameSize) : Unfinished limit (record.encode.take count) := by
  intro cut
  rw [List.take_take]
  refine ⟨_, readFrame_take_encode within (by omega), ?_⟩
  split
  · rfl
  · split <;> rfl

theorem readFrame_take_of_whole {limit : UInt32} {record : Record}
    (acceptable : record.Acceptable limit) {count : Nat} (whole : record.frameSize ≤ count)
    (behind : Bytes) : readFrame limit ((record.encode ++ behind).take count) = .ok record := by
  rw [List.take_append, List.take_of_length_le (by rwa [Record.length_encode])]
  exact readFrame_encode_append acceptable _

theorem readFrame_take_of_broken {limit : UInt32} {record : Record}
    (within : record.payload.length ≤ limit.toNat) {count : Nat}
    (broken : count < record.frameSize) (behind : Bytes) :
    ∃ fault, readFrame limit ((record.encode ++ behind).take count) = .error fault ∧
      fault.isMismatch = false := by
  have fits : count ≤ record.encode.length := by
    rw [Record.length_encode]
    exact Nat.le_of_lt broken
  have unfinished := unfinished_take_encode within broken count
  rwa [List.take_take, Nat.min_self, ← List.take_append_of_le_length fits] at unfinished

/-- The surviving part of frames and an unfinished rest: the frames that are whole in it,
and an unfinished rest again. -/
theorem take_frames {limit : UInt32} {records : List Record} {rest : Bytes}
    (acceptable : ∀ record ∈ records, record.Acceptable limit)
    (unfinished : Unfinished limit rest) (cut : Nat) :
    ∃ kept behind, (frames records ++ rest).take cut = frames kept ++ behind ∧
      Unfinished limit behind ∧ kept <+: records ∧
      ∀ before < records.length,
        before < kept.length ↔ framesSize (records.take (before + 1)) ≤ cut := by
  -- By the records: the first frame is whole in what survives, or the cut falls inside it.
  induction records generalizing cut with
  | nil =>
      refine ⟨[], rest.take cut, rfl, ?_, List.prefix_refl _, by simp⟩
      intro further
      rw [List.take_take]
      exact unfinished _
  | cons record records ih =>
      by_cases whole : record.frameSize ≤ cut
      · obtain ⟨kept, behind, survives, stillUnfinished, leading, counts⟩ :=
          ih (fun later member => acceptable later (by simp [member])) (cut - record.frameSize)
        refine ⟨record :: kept, behind, ?_, stillUnfinished,
          List.cons_prefix_cons.mpr ⟨rfl, leading⟩, ?_⟩
        · rw [frames_cons, List.append_assoc, List.take_append, List.take_of_length_le (by simpa),
            Record.length_encode, survives, frames_cons, List.append_assoc]
        · intro before present
          cases before with
          | zero => simpa [framesSize] using whole
          | succ before =>
              rw [List.take_succ_cons, framesSize, List.length_cons, Nat.succ_lt_succ_iff,
                counts before (by simpa using present)]
              omega
      · have broken : cut < record.frameSize := by omega
        refine ⟨[], record.encode.take cut, ?_,
          unfinished_take_encode (acceptable record (by simp)).within broken,
          List.nil_prefix, ?_⟩
        · rw [frames_cons, List.append_assoc,
            List.take_append_of_le_length (by rw [Record.length_encode]; omega)]
          rfl
        · intro before present
          simp only [List.take_succ_cons, framesSize, List.length_nil, Nat.not_lt_zero, false_iff,
            Nat.not_le]
          omega

end FrameLog
