import FrameLog.Frame
import FrameLog.Header

/-!
# Scanning frames

A scan reads frames one after the other and stops at the first fault. Opening, checking and
repairing all interpret its result, each in its own way.

Main statement: a scan that ends with `records` and `fault` has taken the octets apart
into the frames of sound records and a rest whose reading gives the fault, and there is
no other way to do so.
-/

set_option autoImplicit false

namespace FrameLog

def frames (records : List Record) : Bytes := records.flatMap Record.encode

/-- Where each frame starts, if the first one starts at `offset`. -/
def frameOffsets (offset : Nat) : List Record → List Nat
  | [] => []
  | record :: records => offset :: frameOffsets (offset + record.frameSize) records

def framesSize : List Record → Nat
  | [] => 0
  | record :: records => record.frameSize + framesSize records

/-- A file that holds these records and nothing else. -/
def logFile (records : List Record) : Bytes := FileHeader.current.encode ++ frames records

structure Scan where
  records : List Record
  fault : Fault
  deriving DecidableEq, Repr

def Scan.cons (record : Record) (behind : Scan) : Scan :=
  ⟨record :: behind.records, behind.fault⟩

theorem readFrame_rest_shorter {limit : UInt32} {octets : Bytes} {record : Record}
    (read : readFrame limit octets = .ok record) :
    (octets.drop record.frameSize).length < octets.length := by
  obtain ⟨_, _, rest, rfl⟩ := readFrame_eq_ok_iff.mp read
  simp only [List.length_drop, List.length_append, Record.length_encode, Record.frameSize,
    FrameHeader.size]
  omega

def scan (limit : UInt32) (octets : Bytes) : Scan :=
  match _ : readFrame limit octets with
  | .error fault => ⟨[], fault⟩
  | .ok record => (scan limit (octets.drop record.frameSize)).cons record
termination_by octets.length
decreasing_by exact readFrame_rest_shorter ‹_›

def scanFile (limit : UInt32) (file : Bytes) : Scan :=
  scan limit (file.drop FileHeader.size)

/-! ## Sizes and offsets -/

@[simp] theorem frames_nil : frames [] = [] := rfl

@[simp] theorem frames_cons (record : Record) (records : List Record) :
    frames (record :: records) = record.encode ++ frames records := rfl

@[simp] theorem frames_append (earlier later : List Record) :
    frames (earlier ++ later) = frames earlier ++ frames later := by
  simp [frames]

@[simp] theorem length_frames (records : List Record) :
    (frames records).length = framesSize records := by
  induction records with
  | nil => rfl
  | cons record records ih => simp [ih, framesSize]

@[simp] theorem length_frameOffsets (offset : Nat) (records : List Record) :
    (frameOffsets offset records).length = records.length := by
  induction records generalizing offset with
  | nil => rfl
  | cons record records ih => simp [frameOffsets, ih]

/-! ## The decomposition -/

structure Record.Acceptable (limit : UInt32) (record : Record) : Prop where
  within : record.payload.length ≤ limit.toNat
  sound : record.Sound

theorem scan_of_error {limit : UInt32} {octets : Bytes} {fault : Fault}
    (read : readFrame limit octets = .error fault) : scan limit octets = ⟨[], fault⟩ := by
  rw [scan]
  split
  · next found => simp_all
  · next found => simp_all

theorem scan_of_ok {limit : UInt32} {octets : Bytes} {record : Record}
    (read : readFrame limit octets = .ok record) :
    scan limit octets = (scan limit (octets.drop record.frameSize)).cons record := by
  rw [scan]
  split
  · next found => simp_all
  · next found =>
      rw [read] at found
      cases found
      rfl

theorem readFrame_encode_append {limit : UInt32} {record : Record}
    (acceptable : record.Acceptable limit) (rest : Bytes) :
    readFrame limit (record.encode ++ rest) = .ok record :=
  readFrame_eq_ok_iff.mpr ⟨acceptable.within, acceptable.sound, rest, rfl⟩

/-- Acceptable frames in front are found as they are, and the scan goes on behind them. -/
theorem scan_frames_append {limit : UInt32} {records : List Record}
    (acceptable : ∀ record ∈ records, record.Acceptable limit) (rest : Bytes) :
    scan limit (frames records ++ rest) =
      ⟨records ++ (scan limit rest).records, (scan limit rest).fault⟩ := by
  induction records with
  | nil => rfl
  | cons record records ih =>
      have read := readFrame_encode_append (acceptable record (by simp)) (frames records ++ rest)
      rw [frames_cons, List.append_assoc, scan_of_ok read,
        List.drop_left' (Record.length_encode record),
        ih fun later member => acceptable later (by simp [member])]
      rfl

/-- A scan takes the octets apart in the only way there is. -/
theorem scan_eq_iff {limit : UInt32} {octets : Bytes} {records : List Record} {fault : Fault} :
    scan limit octets = ⟨records, fault⟩ ↔
      (∀ record ∈ records, record.Acceptable limit) ∧
        ∃ rest, octets = frames records ++ rest ∧ readFrame limit rest = .error fault := by
  constructor
  · intro scanned
    fun_induction scan limit octets generalizing records fault with
    | case1 octets found read =>
        cases scanned
        exact ⟨by simp, octets, rfl, read⟩
    | case2 octets record read ih =>
        cases scanned
        obtain ⟨later, rest, split, stops⟩ := ih rfl
        obtain ⟨within, sound, tail, rfl⟩ := readFrame_eq_ok_iff.mp read
        have front : (record.encode ++ tail).drop record.frameSize = tail :=
          List.drop_left' (Record.length_encode record)
        refine ⟨?_, rest, ?_, stops⟩
        · intro found member
          rcases List.mem_cons.mp member with rfl | member
          · exact ⟨within, sound⟩
          · exact later found member
        · rw [frames_cons, List.append_assoc, ← split, front]
  · rintro ⟨acceptable, rest, rfl, stops⟩
    rw [scan_frames_append acceptable, scan_of_error stops, List.append_nil]

end FrameLog
