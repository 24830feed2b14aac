import FrameLog.Proofs.Requests

/-!
# What a request can come to

All the ways in which serving a request can end, for any handle and any contents of the
file: the answer, what becomes of the handle, and the events. Reading changes nothing but a
counter. An answer that is a failure leaves all the rest as it was, unless the failure is
that of the sync behind an append or a truncation, which stand.
-/

set_option autoImplicit false

namespace FrameLog

open PlainLog (Permits)

def Request.isRead : Request → Bool
  | get _ | readAll => true
  | _ => false

def Failure.isMismatch : Failure → Bool
  | checksumMismatch .. => true
  | _ => false

namespace Handle

/-- What reading can come to. A mismatch is counted and reported once, however many records
were asked for. -/
inductive ReadEffect {Value : Type} (handle : Handle) (file : Bytes) : Served Value → Prop where
  | found (value : Value) : ReadEffect handle file ⟨.ok value, handle, file, []⟩
  | mismatched (offset : Nat) (stored computed : UInt32) :
      ReadEffect handle file
        ⟨.error (.checksumMismatch offset stored computed),
          { handle with counters := handle.counters.countCorruption }, file,
          [.mismatchOnRead handle.path offset]⟩
  | refused {failure : Failure} : failure.isMismatch = false →
      ReadEffect handle file (.refused handle file failure)

/-- What serving a request can come to, given how the sync ends that it asks for. -/
inductive Effect (handle : Handle) : Request → Option IoCause → Served Reply → Prop where
  | appended {payload : Bytes} {syncFailure : Option IoCause} (file : Bytes) :
      handle.closed = false → payload.length ≤ handle.settings.maxPayloadSize.toNat →
      Effect handle (.append payload) syncFailure
        ⟨.ok (.index (handle.length + 1)), handle.appended payload,
          file.overlay handle.writeOffset (Record.ofPayload payload).encode,
          handle.appendEvents payload⟩
  | appendedAndSynced {payload : Bytes} (file : Bytes) : handle.closed = false →
      payload.length ≤ handle.settings.maxPayloadSize.toNat →
      Effect handle (.appendAndSync payload) none
        ⟨.ok (.index (handle.length + 1)),
          { handle.appended payload with
            counters := (handle.appended payload).counters.countSync },
          file.overlay handle.writeOffset (Record.ofPayload payload).encode,
          handle.appendEvents payload⟩
  | appendedUnsynced {payload : Bytes} {cause : IoCause} (file : Bytes) :
      handle.closed = false → payload.length ≤ handle.settings.maxPayloadSize.toNat →
      Effect handle (.appendAndSync payload) (some cause)
        ⟨.error (.io cause), handle.appended payload,
          file.overlay handle.writeOffset (Record.ofPayload payload).encode,
          handle.appendEvents payload⟩
  | synced (file : Bytes) : handle.closed = false →
      Effect handle .sync none
        ⟨.ok .done, { handle with counters := handle.counters.countSync }, file, []⟩
  | truncated {index offset : Nat} (file : Bytes) : handle.closed = false →
      handle.positions.offsetOf? index = some offset →
      Effect handle (.truncateFrom index) none
        ⟨.ok .done, handle.truncated index offset, file.resize offset,
          [.truncated index offset (handle.length - (index - 1))]⟩
  | truncatedUnsynced {index offset : Nat} {cause : IoCause} (file : Bytes) :
      handle.closed = false → handle.positions.offsetOf? index = some offset →
      Effect handle (.truncateFrom index) (some cause)
        ⟨.error (.io cause), handle.truncated index offset, file.resize offset, []⟩
  | read {request : Request} {syncFailure : Option IoCause} {file : Bytes}
      {served : Served Reply} : handle.closed = false → request.isRead = true →
      handle.ReadEffect file served → Effect handle request syncFailure served
  | closed (file : Bytes) : handle.closed = false →
      Effect handle .close none
        ⟨.ok .done, { handle with closed := true, counters := handle.counters.countSync }, file,
          [.closed handle.path]⟩
  | closedUnsynced {cause : IoCause} (file : Bytes) : handle.closed = false →
      Effect handle .close (some cause)
        ⟨.ok .done, { handle with closed := true }, file,
          [.finalSyncFailed handle.path cause, .closed handle.path]⟩
  | closedAgain {syncFailure : Option IoCause} (file : Bytes) : handle.closed = true →
      Effect handle .close syncFailure ⟨.ok .done, handle, file, []⟩
  /-- Only what is left of a failed append can be reported. -/
  | refused {request : Request} {syncFailure : Option IoCause} {failure : Failure}
      {events : List Event} (file : Bytes) : request ≠ .close → failure.isMismatch = false →
      (∀ event ∈ events, ∃ cause, event = .rollbackFailed handle.writeOffset cause) →
      Effect handle request syncFailure ⟨.error failure, handle, file, events⟩

/-! ## Reads -/

section

variable {handle : Handle} {file : Bytes}

theorem ReadEffect.map {Value Result : Type} {served : Served Value}
    (effect : handle.ReadEffect file served) (transform : Value → Result) :
    handle.ReadEffect file (served.map transform) := by
  cases effect with
  | found value => exact .found (transform value)
  | mismatched offset stored computed => exact .mismatched offset stored computed
  | refused matching => exact .refused matching

theorem readEffect_readPayload (handle : Handle) (file : Bytes) (offset : Nat) :
    handle.ReadEffect file (handle.readPayload file offset) := by
  unfold readPayload
  split
  · exact .found _
  · next fault _ =>
      cases fault with
      | mismatch stored computed => exact .mismatched offset stored computed
      | absent | partialHeader | oversized | torn => exact .refused rfl

theorem readEffect_readPayloads (handle : Handle) (file : Bytes) (offsets : List Nat) :
    handle.ReadEffect file (handle.readPayloads file offsets) := by
  induction offsets with
  | nil => exact .found []
  | cons offset offsets ih =>
      have first := handle.readEffect_readPayload file offset
      simp only [readPayloads]
      generalize handle.readPayload file offset = served at first
      cases first with
      | found payload => exact ih.map (payload :: ·)
      | mismatched offset stored computed => exact .mismatched offset stored computed
      | refused matching => exact .refused matching

theorem readEffect_get (opened : handle.closed = false) (file : Bytes) (index : Nat) :
    handle.ReadEffect file (handle.get file index) := by
  cases found : handle.positions.offsetOf? index with
  | none =>
      simp only [get_of_none opened found]
      exact .refused rfl
  | some offset =>
      simp only [get_of_some opened found]
      exact handle.readEffect_readPayload file offset

theorem readEffect_readAll (opened : handle.closed = false) (file : Bytes) :
    handle.ReadEffect file (handle.readAll file) := by
  simp only [readAll_of_opened opened]
  exact handle.readEffect_readPayloads file _

/-! ## All requests -/

variable {syncFailure : Option IoCause}

theorem Effect.of_refused {request : Request} {failure : Failure} (other : request ≠ .close)
    (matching : failure.isMismatch = false) (file : Bytes) :
    handle.Effect request syncFailure (.refused handle file failure) :=
  .refused file other matching (fun _ member => by cases member)

theorem effect_append (opened : handle.closed = false) (ceiling syncFailure)
    (file payload : Bytes) :
    handle.Effect (.append payload) syncFailure
        (handle.serve ceiling file (.append payload) syncFailure) ∧
      handle.Effect (.appendAndSync payload) syncFailure
        (handle.serve ceiling file (.appendAndSync payload) syncFailure) := by
  simp only [serve]
  by_cases within : payload.length ≤ handle.settings.maxPayloadSize.toNat
  · by_cases permitted :
        Permits ceiling (handle.writeOffset + (Record.ofPayload payload).frameSize)
    · have done : handle.append ceiling file payload = _ :=
        append_of_permits opened within permitted
      have answered := congrArg Served.answer done
      cases syncFailure with
      | none =>
          simp only [appendAndSync_of_ok answered, done]
          exact ⟨.appended file opened within, .appendedAndSynced file opened within⟩
      | some cause =>
          simp only [appendAndSync_of_unsynced answered, done]
          exact ⟨.appended file opened within, .appendedUnsynced file opened within⟩
    · obtain ⟨moved, failed⟩ := append_of_not_permits file opened within permitted
      simp only [appendAndSync_of_error (congrArg Served.answer failed), failed]
      have onlyLeft : ∀ event ∈
          ((Transfer.setLength ceiling (file.overlay handle.writeOffset
            ((Record.ofPayload payload).encode.take moved)) handle.writeOffset).failure.map
              (Event.rollbackFailed handle.writeOffset)).toList,
          ∃ cause, event = .rollbackFailed handle.writeOffset cause := by
        intro event member
        obtain ⟨cause, _, rfl⟩ := Option.map_eq_some_iff.mp (Option.mem_toList.mp member)
        exact ⟨cause, rfl⟩
      exact ⟨.refused _ (fun same => by cases same) rfl onlyLeft,
        .refused _ (fun same => by cases same) rfl onlyLeft⟩
  · have failed : handle.append ceiling file payload = _ :=
      append_of_oversized opened (Nat.lt_of_not_le within)
    simp only [appendAndSync_of_error (congrArg Served.answer failed), failed]
    exact ⟨.of_refused (fun same => by cases same) rfl file,
      .of_refused (fun same => by cases same) rfl file⟩

theorem effect_truncateFrom (opened : handle.closed = false) (ceiling syncFailure)
    (file : Bytes) (index : Nat) :
    handle.Effect (.truncateFrom index) syncFailure
      (handle.serve ceiling file (.truncateFrom index) syncFailure) := by
  simp only [serve]
  cases found : handle.positions.offsetOf? index with
  | none =>
      simp only [truncateFrom_of_none opened found]
      exact .of_refused (fun same => by cases same) rfl file
  | some offset =>
      by_cases permitted : file.length < offset → Permits ceiling offset
      · cases syncFailure with
        | none =>
            simp only [truncateFrom_of_permits opened found permitted]
            exact .truncated file opened found
        | some cause =>
            simp only [truncateFrom_of_unsynced opened found permitted]
            exact .truncatedUnsynced file opened found
      · obtain ⟨grows, forbidden⟩ := Classical.not_imp.mp permitted
        simp only [truncateFrom_of_not_permits opened found grows forbidden]
        exact .of_refused (fun same => by cases same) rfl file

end

theorem effect_serve (handle : Handle) (ceiling : Option Nat) (file : Bytes) (request : Request)
    (syncFailure : Option IoCause) :
    handle.Effect request syncFailure (handle.serve ceiling file request syncFailure) := by
  cases closed : handle.closed with
  | true =>
      by_cases closing : request = .close
      · subst closing
        simp only [serve_close_of_closed closed]
        exact .closedAgain file closed
      · simp only [serve_of_closed closed closing]
        exact .of_refused closing rfl file
  | false =>
      cases request with
      | append payload => exact (effect_append closed ceiling syncFailure file payload).1
      | appendAndSync payload => exact (effect_append closed ceiling syncFailure file payload).2
      | sync =>
          cases syncFailure with
          | none =>
              simp only [serve_sync_of_opened closed]
              exact .synced file closed
          | some cause =>
              simp only [serve_sync_of_unsynced closed]
              exact .of_refused (fun same => by cases same) rfl file
      | truncateFrom index => exact effect_truncateFrom closed ceiling syncFailure file index
      | get index => exact .read closed rfl ((readEffect_get closed file index).map Reply.payload)
      | readAll => exact .read closed rfl ((readEffect_readAll closed file).map Reply.payloads)
      | close =>
          cases syncFailure with
          | none =>
              simp only [serve_close_of_opened closed]
              exact .closed file closed
          | some cause =>
              simp only [serve_close_of_unsynced closed]
              exact .closedUnsynced file closed

end Handle

end FrameLog
