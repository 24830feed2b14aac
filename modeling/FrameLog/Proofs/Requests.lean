import FrameLog.Proofs.Contents

/-!
# The ways a request can go

What each request leaves behind, one equation for each way it can go, for any handle and
any file. Nothing is assumed here about how handle and file belong together.
-/

set_option autoImplicit false

namespace FrameLog

open PlainLog (Permits)

namespace Handle

/-! ## Appending -/

def appended (handle : Handle) (payload : Bytes) : Handle :=
  { handle with
    positions := (handle.positions.push handle.writeOffset).1
    writeOffset := handle.writeOffset + (Record.ofPayload payload).frameSize
    nextIndex := handle.length + 2
    counters := handle.counters.countWrite (Record.ofPayload payload).frameSize }

def appendEvents (handle : Handle) (payload : Bytes) : List Event :=
  (if handle.settings.maxSegmentSize.toNat < (handle.appended payload).writeOffset then
    [.outgrown (handle.appended payload).writeOffset handle.settings.maxSegmentSize]
  else []) ++ [.appended (handle.length + 1) handle.writeOffset payload.length]

section

variable {handle : Handle} {ceiling : Option Nat} {file payload : Bytes}

theorem encode_ne_nil (record : Record) : record.encode ≠ [] := by
  intro empty
  cases empty

theorem append_of_closed (closed : handle.closed = true) :
    handle.append ceiling file payload = .refused handle file .closed := by
  simp only [append, closed, if_true]

theorem append_of_oversized (opened : handle.closed = false)
    (oversized : handle.settings.maxPayloadSize.toNat < payload.length) :
    handle.append ceiling file payload =
      .refused handle file
        (.payloadTooLarge payload.length handle.settings.maxPayloadSize) := by
  simp only [append, opened, oversized, Bool.false_eq_true, if_false, if_true]

theorem append_of_permits (opened : handle.closed = false)
    (within : payload.length ≤ handle.settings.maxPayloadSize.toNat)
    (permitted : Permits ceiling (handle.writeOffset + (Record.ofPayload payload).frameSize)) :
    handle.append ceiling file payload =
      ⟨.ok (handle.length + 1), handle.appended payload,
        file.overlay handle.writeOffset (Record.ofPayload payload).encode,
        handle.appendEvents payload⟩ := by
  rw [← Record.length_encode] at permitted
  rw [append, if_neg (ne_true_of_eq_false opened), if_neg (Nat.not_lt.mpr within)]
  simp only [Transfer.write_of_permits permitted, Record.length_encode]
  rfl

theorem append_of_not_permits (file : Bytes) (opened : handle.closed = false)
    (within : payload.length ≤ handle.settings.maxPayloadSize.toNat)
    (forbidden : ¬ Permits ceiling (handle.writeOffset + (Record.ofPayload payload).frameSize)) :
    ∃ moved,
      let piece := (Record.ofPayload payload).encode.take moved
      let cutBack := Transfer.setLength ceiling (file.overlay handle.writeOffset piece)
        handle.writeOffset
      handle.append ceiling file payload =
        ⟨.error (.io .fileTooLarge), handle, cutBack.contents,
          (cutBack.failure.map (Event.rollbackFailed handle.writeOffset)).toList⟩ := by
  rw [← Record.length_encode] at forbidden
  obtain ⟨moved, written⟩ := Transfer.write_of_not_permits forbidden (encode_ne_nil _) file
  refine ⟨moved, ?_⟩
  simp only [append, opened, Nat.not_lt.mpr within, written, Bool.false_eq_true, if_false]

theorem appendAndSync_of_error {syncFailure : Option IoCause} {failure : Failure}
    (failed : (handle.append ceiling file payload).answer = .error failure) :
    handle.appendAndSync ceiling file payload syncFailure =
      handle.append ceiling file payload := by
  simp only [appendAndSync, failed]

theorem appendAndSync_of_ok {index : Nat}
    (done : (handle.append ceiling file payload).answer = .ok index) :
    handle.appendAndSync ceiling file payload =
      { handle.append ceiling file payload with
        handle := { (handle.append ceiling file payload).handle with
          counters := (handle.append ceiling file payload).handle.counters.countSync } } := by
  simp only [appendAndSync, done]

theorem appendAndSync_of_unsynced {index : Nat}
    (done : (handle.append ceiling file payload).answer = .ok index) (cause : IoCause) :
    handle.appendAndSync ceiling file payload (some cause) =
      { handle.append ceiling file payload with answer := .error (.io cause) } := by
  simp only [appendAndSync, done]

/-- But for a counter, the sync behind an append leaves everything as the append did. -/
theorem appendAndSync_eq (ceiling : Option Nat) (handle : Handle) (file payload : Bytes) :
    ∃ counters, handle.appendAndSync ceiling file payload =
      { handle.append ceiling file payload with
        handle := { (handle.append ceiling file payload).handle with counters } } := by
  cases answered : (handle.append ceiling file payload).answer with
  | error failure => exact ⟨_, appendAndSync_of_error answered⟩
  | ok index => exact ⟨_, appendAndSync_of_ok answered⟩

end

/-! ## Truncating -/

def truncated (handle : Handle) (index offset : Nat) : Handle :=
  { handle with
    positions := ⟨handle.positions.offsets.take (index - 1)⟩
    writeOffset := offset
    nextIndex := index }

section

variable {handle : Handle} {ceiling : Option Nat} {file : Bytes} {index offset : Nat}
  {syncFailure : Option IoCause}

theorem truncateFrom_of_closed (closed : handle.closed = true) :
    handle.truncateFrom ceiling file index syncFailure = .refused handle file .closed := by
  simp only [truncateFrom, closed, if_true]

theorem truncateFrom_of_none (opened : handle.closed = false)
    (missing : handle.positions.offsetOf? index = none) :
    handle.truncateFrom ceiling file index syncFailure =
      .refused handle file (.invalidTruncation index handle.length) := by
  simp only [truncateFrom, opened, Positions.truncateFrom, missing, Bool.false_eq_true, if_false]

theorem truncateFrom_of_permits (opened : handle.closed = false)
    (found : handle.positions.offsetOf? index = some offset)
    (permitted : file.length < offset → Permits ceiling offset) :
    handle.truncateFrom ceiling file index =
      ⟨.ok (), handle.truncated index offset, file.resize offset,
        [.truncated index offset (handle.length - (index - 1))]⟩ := by
  simp only [truncateFrom, opened, Positions.truncateFrom, found, truncated,
    Transfer.setLength_of_permits permitted, Bool.false_eq_true, if_false]

/-- The handle follows a cut that was not made durable, but nothing is reported. -/
theorem truncateFrom_of_unsynced (opened : handle.closed = false)
    (found : handle.positions.offsetOf? index = some offset)
    (permitted : file.length < offset → Permits ceiling offset) (cause : IoCause) :
    handle.truncateFrom ceiling file index (some cause) =
      ⟨.error (.io cause), handle.truncated index offset, file.resize offset, []⟩ := by
  simp only [truncateFrom, opened, Positions.truncateFrom, found, truncated,
    Transfer.setLength_of_permits permitted, Bool.false_eq_true, if_false]

/-- A file that has become too short is filled up, which a ceiling can forbid. -/
theorem truncateFrom_of_not_permits (opened : handle.closed = false)
    (found : handle.positions.offsetOf? index = some offset) (grows : file.length < offset)
    (forbidden : ¬ Permits ceiling offset) :
    handle.truncateFrom ceiling file index syncFailure =
      .refused handle file (.io .fileTooLarge) := by
  simp only [truncateFrom, opened, Positions.truncateFrom, found,
    Transfer.setLength_of_not_permits grows forbidden, Bool.false_eq_true, if_false]

end

/-! ## Reading -/

section

variable {handle : Handle} {file : Bytes}

theorem readPayload_of_ok {offset : Nat} {record : Record}
    (read : readFrameAt handle.settings.maxPayloadSize file offset = .ok record) :
    handle.readPayload file offset = ⟨.ok record.payload, handle, file, []⟩ := by
  simp only [readPayload, read]

theorem readPayload_of_error {offset : Nat} {fault : Fault}
    (read : readFrameAt handle.settings.maxPayloadSize file offset = .error fault) :
    (handle.readPayload file offset).answer = .error (fault.failure offset) := by
  rw [readPayload, read]
  cases mismatch : fault.isMismatch with
  | false => simp [mismatch, Served.refused]
  | true => simp [mismatch]

theorem readPayload_of_matching {offset : Nat} {fault : Fault}
    (read : readFrameAt handle.settings.maxPayloadSize file offset = .error fault)
    (matching : fault.isMismatch = false) :
    handle.readPayload file offset = .refused handle file (fault.failure offset) := by
  simp only [readPayload, read, matching, Bool.false_eq_true, if_false]

theorem get_of_some {index offset : Nat} (opened : handle.closed = false)
    (found : handle.positions.offsetOf? index = some offset) :
    handle.get file index = handle.readPayload file offset := by
  simp only [get, opened, found, Bool.false_eq_true, if_false]

theorem get_of_none {index : Nat} (opened : handle.closed = false)
    (missing : handle.positions.offsetOf? index = none) :
    handle.get file index = .refused handle file (.indexOutOfRange index handle.lastIndex) := by
  simp only [get, opened, missing, Bool.false_eq_true, if_false]

theorem readAll_of_opened (opened : handle.closed = false) :
    handle.readAll file = handle.readPayloads file handle.positions.offsets := by
  simp only [readAll, opened, Bool.false_eq_true, if_false]

theorem readPayloads_of_ok {offsets : List Nat} {records : List Record}
    (read : offsets.map (readFrameAt handle.settings.maxPayloadSize file) = records.map .ok) :
    handle.readPayloads file offsets = ⟨.ok (records.map Record.payload), handle, file, []⟩ := by
  induction offsets generalizing records with
  | nil =>
      cases records with
      | nil => rfl
      | cons record records => simp at read
  | cons offset offsets ih =>
      cases records with
      | nil => simp at read
      | cons record records =>
          simp only [List.map_cons, List.cons.injEq] at read
          simp only [readPayloads, readPayload_of_ok read.1, ih read.2]
          rfl

/-- The first record that cannot be read decides the answer. -/
theorem readPayloads_of_error {readable later : List Nat} {offset : Nat} {records : List Record}
    {fault : Fault}
    (read : readable.map (readFrameAt handle.settings.maxPayloadSize file) = records.map .ok)
    (stops : readFrameAt handle.settings.maxPayloadSize file offset = .error fault) :
    (handle.readPayloads file (readable ++ offset :: later)).answer =
      .error (fault.failure offset) := by
  induction readable generalizing records with
  | nil => simp only [List.nil_append, readPayloads, readPayload_of_error stops]
  | cons first readable ih =>
      cases records with
      | nil => simp at read
      | cons record records =>
          simp only [List.map_cons, List.cons.injEq] at read
          have behind := ih read.2
          simp only [List.cons_append, readPayloads, readPayload_of_ok read.1, Served.map, behind]
          rfl

end

/-! ## Syncing and closing -/

theorem serve_sync_of_opened {handle : Handle} (opened : handle.closed = false)
    (ceiling : Option Nat) (file : Bytes) :
    handle.serve ceiling file .sync =
      ⟨.ok .done, { handle with counters := handle.counters.countSync }, file, []⟩ := by
  simp only [serve, sync, opened, Bool.false_eq_true, if_false]
  rfl

theorem serve_sync_of_unsynced {handle : Handle} (opened : handle.closed = false)
    (ceiling : Option Nat) (file : Bytes) (cause : IoCause) :
    handle.serve ceiling file .sync (some cause) = .refused handle file (.io cause) := by
  simp only [serve, sync, opened, Bool.false_eq_true, if_false]
  rfl

theorem serve_close_of_opened {handle : Handle} (opened : handle.closed = false)
    (ceiling : Option Nat) (file : Bytes) :
    handle.serve ceiling file .close =
      ⟨.ok .done, { handle with closed := true, counters := handle.counters.countSync }, file,
        [.closed handle.path]⟩ := by
  simp only [serve, close, opened, Bool.false_eq_true, if_false]
  rfl

theorem serve_close_of_unsynced {handle : Handle} (opened : handle.closed = false)
    (ceiling : Option Nat) (file : Bytes) (cause : IoCause) :
    handle.serve ceiling file .close (some cause) =
      ⟨.ok .done, { handle with closed := true }, file,
        [.finalSyncFailed handle.path cause, .closed handle.path]⟩ := by
  simp only [serve, close, opened, Bool.false_eq_true, if_false]
  rfl

theorem close_file (handle : Handle) (file : Bytes) : (handle.close file).file = file := by
  unfold close
  split
  · rfl
  · rfl

/-- A closed handle refuses everything but being closed again. -/
theorem serve_of_closed {handle : Handle} (closed : handle.closed = true) {request : Request}
    (other : request ≠ .close) {syncFailure : Option IoCause} (ceiling : Option Nat)
    (file : Bytes) :
    handle.serve ceiling file request syncFailure = .refused handle file .closed := by
  cases request with
  | append payload => simp only [serve, append_of_closed closed]; rfl
  | appendAndSync payload =>
      have failed : (handle.append ceiling file payload).answer = .error .closed := by
        rw [append_of_closed closed]
        rfl
      simp only [serve, appendAndSync_of_error failed, append_of_closed closed]
      rfl
  | sync => simp only [serve, sync, closed, if_true]; rfl
  | truncateFrom index => simp only [serve, truncateFrom_of_closed closed]; rfl
  | get index => simp only [serve, get, closed, if_true]; rfl
  | readAll => simp only [serve, readAll, closed, if_true]; rfl
  | close => exact absurd rfl other

theorem serve_close_of_closed {handle : Handle} (closed : handle.closed = true)
    {syncFailure : Option IoCause} (ceiling : Option Nat) (file : Bytes) :
    handle.serve ceiling file .close syncFailure = ⟨.ok .done, handle, file, []⟩ := by
  simp only [serve, close, closed, if_true]
  rfl

end Handle

end FrameLog
