import FrameLog.Cursor
import FrameLog.Proofs.Extent

/-!
# What a stream yields

A stream yields records until the first place where it finds none, and tells apart only
whether the file ends there. `Drains` says which items it yields one after the other and
what it is left as, so that its last position can be spoken of as well.

Main statement: in front of acceptable frames a stream yields their records in order and,
unless the file ends behind them, one failure.
-/

set_option autoImplicit false

namespace FrameLog

/-! ## Records with their indices -/

def numbered (first : Nat) : List Record → List Indexed
  | [] => []
  | record :: records => ⟨first, record⟩ :: numbered (first + 1) records

theorem map_index_numbered (first : Nat) (records : List Record) :
    (numbered first records).map Indexed.index = List.range' first records.length := by
  induction records generalizing first with
  | nil => rfl
  | cons record records ih => rw [numbered, List.map_cons, ih, List.length_cons, List.range'_succ]

theorem map_record_numbered (first : Nat) (records : List Record) :
    (numbered first records).map Indexed.record = records := by
  induction records generalizing first with
  | nil => rfl
  | cons record records ih => rw [numbered, List.map_cons, ih]

theorem map_payload_numbered (first : Nat) (records : List Record) :
    (numbered first records).map (fun item => item.record.payload) =
      records.map Record.payload := by
  calc (numbered first records).map (fun item => item.record.payload)
      = ((numbered first records).map Indexed.record).map Record.payload := by rw [List.map_map]; rfl
    _ = records.map Record.payload := by rw [map_record_numbered]

/-! ## One read -/

/-- The failure in which a stream ends that found this fault. The end of the file is none. -/
def Fault.ending (offset : Nat) : Fault → Option Failure
  | absent => none
  | fault => some (fault.failure offset)

theorem Fault.isSome_ending {fault : Fault} {offset : Nat} :
    (fault.ending offset).isSome = true ↔ fault ≠ .absent := by
  cases fault with
  | absent | partialHeader | oversized | torn | mismatch => simp [ending]

section

variable {cursor : Cursor} {file : Bytes}

theorem Cursor.next_of_ok {record : Record}
    (read : readFrameAt cursor.maxPayloadSize file cursor.position = .ok record) :
    cursor.next file = (.ok (some ⟨cursor.nextIndex, record⟩), cursor.advance record) := by
  simp only [next, read]

theorem Cursor.next_of_absent
    (read : readFrameAt cursor.maxPayloadSize file cursor.position = .error .absent) :
    cursor.next file = (.ok none, cursor) := by
  simp only [next, read]

theorem Cursor.next_of_ending {fault : Fault} {failure : Failure}
    (read : readFrameAt cursor.maxPayloadSize file cursor.position = .error fault)
    (ending : fault.ending cursor.position = some failure) :
    cursor.next file = (.error failure, cursor) := by
  cases fault with
  | absent => cases ending
  | partialHeader | oversized | torn | mismatch =>
      cases ending
      simp only [next, read]

end

/-! ## All reads of a stream -/

namespace Stream

/-- The stream yields these items and is left as `last`, which yields nothing more. -/
inductive Drains (file : Bytes) :
    Stream → List (Except Failure Indexed) → Stream → Prop where
  | ended {stream last : Stream} :
      stream.next file = (none, last) → Drains file stream [] last
  | item {stream later last : Stream} {item : Except Failure Indexed}
      {items : List (Except Failure Indexed)} :
      stream.next file = (some item, later) → Drains file later items last →
      Drains file stream (item :: items) last

theorem Drains.toList {file : Bytes} {stream last : Stream}
    {items : List (Except Failure Indexed)} (drains : Drains file stream items last) :
    stream.toList file = items := by
  induction drains with
  | ended nothing =>
      rw [Stream.toList]
      split
      · rfl
      · next found => simp_all
  | item yielded _ ih =>
      rw [Stream.toList]
      split
      · next found => simp_all
      · next found =>
          rw [yielded] at found
          cases found
          rw [ih]

section

variable {cursor : Cursor} {file : Bytes}

theorem next_of_finished (cursor : Cursor) (file : Bytes) :
    next ⟨cursor, true⟩ file = (none, ⟨cursor, true⟩) := rfl

theorem drains_of_fault (cursor : Cursor) {fault : Fault}
    (read : readFrameAt cursor.maxPayloadSize file cursor.position = .error fault) :
    Drains file ⟨cursor, false⟩ ((fault.ending cursor.position).toList.map .error)
      ⟨cursor, true⟩ := by
  cases ending : fault.ending cursor.position with
  | none =>
      cases fault with
      | absent =>
          apply Drains.ended
          simp only [next, Cursor.next_of_absent read, Bool.false_eq_true, if_false]
      | partialHeader | oversized | torn | mismatch => cases ending
  | some failure =>
      refine .item ?_ (.ended (next_of_finished cursor file))
      simp only [next, Cursor.next_of_ending read ending, Bool.false_eq_true, if_false]

theorem drains_of_ok {record : Record} {items : List (Except Failure Indexed)} {last : Stream}
    (read : readFrameAt cursor.maxPayloadSize file cursor.position = .ok record)
    (behind : Drains file ⟨cursor.advance record, false⟩ items last) :
    Drains file ⟨cursor, false⟩ (.ok ⟨cursor.nextIndex, record⟩ :: items) last := by
  refine .item ?_ behind
  simp only [next, Cursor.next_of_ok read, Bool.false_eq_true, if_false]

end

theorem drains_frames {limit : UInt32} {file rest : Bytes} {records : List Record}
    {fault : Fault} (acceptable : ∀ record ∈ records, record.Acceptable limit)
    (stops : readFrame limit rest = .error fault) {position : Nat} (first : Nat)
    (stands : file.drop position = frames records ++ rest) :
    Drains file ⟨⟨position, first, limit⟩, false⟩
      ((numbered first records).map .ok ++
        (fault.ending (position + framesSize records)).toList.map .error)
      ⟨⟨position + framesSize records, first + records.length, limit⟩, true⟩ := by
  induction records generalizing position first with
  | nil => exact drains_of_fault ⟨position, first, limit⟩ (by rwa [readFrameAt, stands])
  | cons record records ih =>
      have read : readFrameAt limit file position = .ok record :=
        readFrameAt_frameOffset acceptable stands (show (record :: records)[0]? = _ from rfl)
      have further : file.drop (position + record.frameSize) = frames records ++ rest :=
        drop_frameOffset stands 1
      have behind := ih (fun later member => acceptable later (by simp [member])) (first + 1) further
      rw [Nat.add_assoc, Nat.add_right_comm first, Nat.add_assoc first] at behind
      exact drains_of_ok read behind

end Stream

end FrameLog
