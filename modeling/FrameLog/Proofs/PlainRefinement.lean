import FrameLog.Proofs.Recovery

/-!
# Handles as lists of payloads

A handle stands for a plain log if its file holds the payloads of that log, each as a
record of the present kind, and nothing behind them. Each request then gets the answer
that the plain log gives, and the handle stands for the plain log afterwards; so it does
after the file is opened again. No answer depends on anything but the list.
-/

set_option autoImplicit false

namespace FrameLog

open PlainLog (Permits)

/-- The records that are written for these payloads. -/
def PlainLog.records (plain : PlainLog) : List Record := plain.payloads.map .ofPayload

structure Handle.StandsFor (handle : Handle) (file : Bytes) (plain : PlainLog) : Prop where
  mirrors : handle.Mirrors file plain.records []
  closed : handle.closed = plain.closed

/-- The request was answered as the plain log answers it, and the two still agree. -/
structure Handle.AgreesOn (handle : Handle) (served : Served Reply)
    (expected : Except Failure Reply × PlainLog) : Prop where
  answer : served.answer = expected.1
  standsFor : served.handle.StandsFor served.file expected.2
  settings : served.handle.settings = handle.settings

namespace PlainLog

variable {plain : PlainLog}

theorem fileSize_eq (plain : PlainLog) :
    plain.fileSize = FileHeader.size + framesSize plain.records := by
  have grown : ∀ (payloads : List Bytes) (size : Nat),
      payloads.foldl (fun size payload => size + FrameHeader.size + payload.length) size =
        size + framesSize (payloads.map .ofPayload) := by
    intro payloads
    induction payloads with
    | nil => exact fun size => rfl
    | cons payload payloads ih =>
        intro size
        have frame : (Record.ofPayload payload).frameSize =
            FrameHeader.size + payload.length := rfl
        rw [List.foldl_cons, ih, List.map_cons, framesSize, frame]
        omega
  exact grown plain.payloads FileHeader.size

theorem length_records (plain : PlainLog) : plain.records.length = plain.length :=
  List.length_map _

theorem map_payload_records (plain : PlainLog) :
    plain.records.map Record.payload = plain.payloads :=
  Record.map_payload_ofPayload plain.payloads

theorem serve_of_closed (plain : PlainLog) (shut : plain.closed = true) {request : Request}
    (other : request ≠ .close) (limit : UInt32) (ceiling : Option Nat) :
    plain.serve limit ceiling request = (.error .closed, plain) := by
  cases request with
  | close => exact absurd rfl other
  | append | appendAndSync | sync | truncateFrom | get | readAll =>
      simp only [PlainLog.serve, shut]

end PlainLog

namespace Handle.StandsFor

variable {handle : Handle} {file : Bytes} {plain : PlainLog}

theorem contents (stands : handle.StandsFor file plain) : file = logFile plain.records := by
  rw [stands.mirrors.contents, List.append_nil]

theorem length_eq (stands : handle.StandsFor file plain) : handle.length = plain.length := by
  rw [stands.mirrors.length_eq, plain.length_records]

theorem writeOffset_eq (stands : handle.StandsFor file plain) :
    handle.writeOffset = plain.fileSize := by
  rw [stands.mirrors.writeOffset, plain.fileSize_eq]

theorem recounted (stands : handle.StandsFor file plain) (closed : Bool) (counters : Counters) :
    ({ handle with closed, counters } : Handle).StandsFor file { plain with closed } :=
  ⟨stands.mirrors.recounted closed counters, rfl⟩

theorem refused (stands : handle.StandsFor file plain) (failure : Failure) :
    handle.AgreesOn (.refused handle file failure) (.error failure, plain) :=
  ⟨rfl, stands, rfl⟩

/-! ## Requests on a closed log -/

theorem serve_closed (stands : handle.StandsFor file plain) (shut : plain.closed = true)
    (limit : UInt32) (ceiling : Option Nat) (request : Request) :
    handle.AgreesOn (handle.serve ceiling file request) (plain.serve limit ceiling request) := by
  have closed : handle.closed = true := stands.closed.trans shut
  by_cases closing : request = .close
  · subst closing
    rw [serve_close_of_closed closed]
    exact ⟨rfl, ⟨stands.mirrors, closed⟩, rfl⟩
  · rw [serve_of_closed closed closing, plain.serve_of_closed shut closing]
    exact stands.refused .closed

/-! ## Requests on an open log -/

section

variable {payloads : List Bytes} {limit : UInt32}

theorem serve_append (stands : handle.StandsFor file ⟨payloads, false⟩)
    (limited : handle.settings.maxPayloadSize = limit) (ceiling : Option Nat)
    (payload : Bytes) :
    handle.AgreesOn (handle.serve ceiling file (.append payload))
      (PlainLog.append limit ceiling ⟨payloads, false⟩ payload) := by
  have closed : handle.closed = false := stands.closed
  have size : PlainLog.fileSize ⟨payloads, false⟩ + FrameHeader.size + payload.length =
      handle.writeOffset + (Record.ofPayload payload).frameSize := by
    rw [stands.writeOffset_eq, Nat.add_assoc]
    rfl
  subst limited
  unfold PlainLog.append PlainLog.objection?
  rw [size, Handle.serve]
  by_cases within : payload.length ≤ handle.settings.maxPayloadSize.toNat
  · rw [if_neg (Nat.not_lt.mpr within)]
    by_cases permitted :
        Permits ceiling (handle.writeOffset + (Record.ofPayload payload).frameSize)
    · rw [if_pos permitted, append_of_permits closed within permitted, stands.length_eq]
      refine ⟨rfl, ⟨?_, closed⟩, rfl⟩
      have added : PlainLog.records ⟨payloads ++ [payload], false⟩ =
          PlainLog.records ⟨payloads, false⟩ ++ [.ofPayload payload] := List.map_append
      rw [added]
      exact stands.mirrors.appended within
    · rw [if_neg permitted, stands.mirrors.append_of_not_permits closed within permitted]
      exact ⟨rfl, ⟨stands.mirrors.cutBack, closed⟩, rfl⟩
  · have oversized := Nat.lt_of_not_le within
    rw [if_pos oversized, append_of_oversized closed oversized]
    exact stands.refused _

theorem serve_appendAndSync (stands : handle.StandsFor file ⟨payloads, false⟩)
    (limited : handle.settings.maxPayloadSize = limit) (ceiling : Option Nat)
    (payload : Bytes) :
    handle.AgreesOn (handle.serve ceiling file (.appendAndSync payload))
      (PlainLog.append limit ceiling ⟨payloads, false⟩ payload) := by
  obtain ⟨answer, after, settings⟩ := stands.serve_append limited ceiling payload
  obtain ⟨counters, served⟩ := appendAndSync_eq ceiling handle file payload
  simp only [Handle.serve] at answer after settings ⊢
  rw [served]
  exact ⟨answer, ⟨after.mirrors.recounted _ counters, after.closed⟩, settings⟩

theorem serve_truncateFrom (stands : handle.StandsFor file ⟨payloads, false⟩)
    (ceiling : Option Nat) (index : Nat) :
    handle.AgreesOn (handle.serve ceiling file (.truncateFrom index))
      (PlainLog.serve limit ceiling ⟨payloads, false⟩ (.truncateFrom index)) := by
  have closed : handle.closed = false := stands.closed
  have length := PlainLog.length_records ⟨payloads, false⟩
  simp only [Handle.serve, PlainLog.serve]
  by_cases present : 1 ≤ index ∧ index ≤ PlainLog.length ⟨payloads, false⟩
  · rw [if_pos present]
    obtain ⟨answer, after, settings, still, cut⟩ :=
      stands.mirrors.truncateFrom closed ceiling present.1 (by rw [length]; exact present.2)
    have kept : PlainLog.records ⟨payloads.take (index - 1), false⟩ =
        (PlainLog.records ⟨payloads, false⟩).take (index - 1) := List.map_take
    refine ⟨?_, ⟨?_, still⟩, settings⟩
    · rw [Served.map, answer]
      rfl
    · rw [kept]
      exact after.symm ▸ cut
  · rw [if_neg present,
      stands.mirrors.truncateFrom_of_missing closed ceiling (by rwa [length]), length]
    exact stands.refused _

theorem serve_get (stands : handle.StandsFor file ⟨payloads, false⟩) (ceiling : Option Nat)
    (index : Nat) :
    handle.AgreesOn (handle.serve ceiling file (.get index))
      (PlainLog.serve limit ceiling ⟨payloads, false⟩ (.get index)) := by
  have closed : handle.closed = false := stands.closed
  have length := PlainLog.length_records ⟨payloads, false⟩
  have missing : ¬ (1 ≤ index ∧ index ≤ payloads.length) →
      handle.AgreesOn ((handle.get file index).map .payload)
        (.error (.indexOutOfRange index payloads.length), ⟨payloads, false⟩) := by
    intro absent
    rw [stands.mirrors.get_of_missing closed (by rwa [length]), length]
    exact stands.refused _
  simp only [Handle.serve, PlainLog.serve]
  by_cases zero : index = 0
  · rw [if_pos zero]
    exact missing (by omega)
  · rw [if_neg zero]
    cases found : payloads[index - 1]? with
    | none =>
        have beyond := List.getElem?_eq_none_iff.mp found
        exact missing (by omega)
    | some payload =>
        have record : (PlainLog.records ⟨payloads, false⟩)[index - 1]? =
            some (.ofPayload payload) := by
          rw [PlainLog.records, List.getElem?_map, found]
          rfl
        rw [stands.mirrors.get_of_getElem? closed (by omega) record]
        exact ⟨rfl, stands, rfl⟩

end

theorem serve (stands : handle.StandsFor file plain) {limit : UInt32}
    (limited : handle.settings.maxPayloadSize = limit) (ceiling : Option Nat)
    (request : Request) :
    handle.AgreesOn (handle.serve ceiling file request) (plain.serve limit ceiling request) := by
  rcases plain with ⟨payloads, shut⟩
  cases shut with
  | true => exact stands.serve_closed rfl limit ceiling request
  | false =>
      have closed : handle.closed = false := stands.closed
      cases request with
      | append payload => exact stands.serve_append limited ceiling payload
      | appendAndSync payload => exact stands.serve_appendAndSync limited ceiling payload
      | truncateFrom index => exact stands.serve_truncateFrom ceiling index
      | get index => exact stands.serve_get ceiling index
      | sync =>
          rw [serve_sync_of_opened closed]
          exact ⟨rfl, ⟨stands.mirrors.recounted _ _, closed⟩, rfl⟩
      | readAll =>
          rw [Handle.serve, stands.mirrors.readAll_eq closed, PlainLog.map_payload_records]
          exact ⟨rfl, stands, rfl⟩
      | close =>
          rw [serve_close_of_opened closed]
          exact ⟨rfl, stands.recounted true _, rfl⟩

end Handle.StandsFor

/-! ## Opening -/

/-- What opening reports of a log with these payloads. -/
def PlainLog.report (plain : PlainLog) : Report where
  recordsRecovered := plain.length
  lastIndex := plain.length
  validBytes := plain.fileSize

theorem Handle.attach_empty (path : String) (settings : Settings) {ceiling : Option Nat}
    (permitted : Permits ceiling FileHeader.size) :
    ∃ handle, (attach path settings ceiling []).answer = .ok handle ∧
      handle.StandsFor (attach path settings ceiling []).file {} ∧
      handle.settings = settings ∧ handle.report = PlainLog.report {} := by
  obtain ⟨opened, file⟩ := attach_nil path settings permitted
  have nothing : ∀ record ∈ ([] : List Record), record.Acceptable settings.maxPayloadSize := by
    intro record member
    cases member
  rw [file]
  exact ⟨_, opened, ⟨mirrors_restored_whole path _ nothing, rfl⟩, rfl, rfl⟩

theorem Handle.StandsFor.attach {handle : Handle} {file : Bytes} {plain : PlainLog}
    (stands : handle.StandsFor file plain) (path : String) (ceiling : Option Nat) :
    ∃ reopened, (Handle.attach path handle.settings ceiling file).answer = .ok reopened ∧
      reopened.StandsFor (Handle.attach path handle.settings ceiling file).file plain.reopened ∧
      reopened.settings = handle.settings ∧ reopened.report = plain.report := by
  have acceptable := stands.mirrors.acceptable
  have report : Report.intact plain.records = plain.report := by
    rw [Report.intact, PlainLog.report, plain.length_records, plain.fileSize_eq]
  obtain ⟨opened, after⟩ := attach_whole path ceiling acceptable
  rw [stands.contents, after]
  exact ⟨_, opened, ⟨mirrors_restored_whole path _ acceptable, rfl⟩, rfl, report⟩

end FrameLog
