import FrameLog.Proofs.Additions

/-!
# How an append comes out

An append to an open log goes one of three ways: its payload is over the limit, the ceiling
stops its frame, or the frame is written. Whether a sync follows makes no difference but to
a counter.

Main statement: every request to append goes one of these ways, on a handle that mirrors its
file.
-/

set_option autoImplicit false

namespace FrameLog

open PlainLog (Permits)

namespace Handle

inductive Appends (handle : Handle) (file : Bytes) (records : List Record)
    (ceiling : Option Nat) (payload : Bytes) : Served Reply → Prop where
  | tooLarge : handle.settings.maxPayloadSize.toNat < payload.length →
      Appends handle file records ceiling payload
        (.refused handle file (.payloadTooLarge payload.length handle.settings.maxPayloadSize))
  | stopped : payload.length ≤ handle.settings.maxPayloadSize.toNat →
      ¬ Permits ceiling (handle.writeOffset + (Record.ofPayload payload).frameSize) →
      Appends handle file records ceiling payload
        ⟨.error (.io .fileTooLarge), handle, logFile records, []⟩
  | written (counters : Counters) : payload.length ≤ handle.settings.maxPayloadSize.toNat →
      Permits ceiling (handle.writeOffset + (Record.ofPayload payload).frameSize) →
      Appends handle file records ceiling payload
        ⟨.ok (.index (records.length + 1)), { handle.appended payload with counters },
          file.overlay handle.writeOffset (Record.ofPayload payload).encode,
          handle.appendEvents payload⟩

section

variable {handle : Handle} {file dangling : Bytes} {records : List Record}

theorem Mirrors.appends_append (mirrors : handle.Mirrors file records dangling)
    (opened : handle.closed = false) (ceiling : Option Nat) (payload : Bytes) :
    handle.Appends file records ceiling payload
      ((handle.append ceiling file payload).map .index) := by
  by_cases within : payload.length ≤ handle.settings.maxPayloadSize.toNat
  · by_cases permitted :
        Permits ceiling (handle.writeOffset + (Record.ofPayload payload).frameSize)
    · rw [append_of_permits opened within permitted, mirrors.length_eq]
      exact .written _ within permitted
    · rw [mirrors.append_of_not_permits opened within permitted]
      exact .stopped within permitted
  · have exceeds := Nat.lt_of_not_le within
    rw [append_of_oversized opened exceeds]
    exact .tooLarge exceeds

theorem Appends.recounted {ceiling : Option Nat} {payload : Bytes} {served : Served Reply}
    (appends : handle.Appends file records ceiling payload served) {index : Nat}
    (answered : served.answer = .ok (.index index)) (counters : Counters) :
    handle.Appends file records ceiling payload
      { served with handle := { served.handle with counters } } := by
  cases appends with
  | tooLarge | stopped => cases answered
  | written _ within permitted => exact .written counters within permitted

theorem Mirrors.appends (mirrors : handle.Mirrors file records dangling)
    (opened : handle.closed = false) (ceiling : Option Nat) {request : Request} {payload : Bytes}
    (asks : request.payload? = some payload) :
    handle.Appends file records ceiling payload (handle.serve ceiling file request) := by
  have plain := mirrors.appends_append opened ceiling payload
  cases request with
  | append content =>
      cases asks
      exact plain
  | appendAndSync content =>
      cases asks
      cases answered : (handle.append ceiling file payload).answer with
      | error failure =>
          rwa [Handle.serve, appendAndSync_of_error answered]
      | ok index =>
          rw [Handle.serve, appendAndSync_of_ok answered]
          have accepted : ((handle.append ceiling file payload).map Reply.index).answer =
              .ok (.index index) := by
            rw [Served.map, answered]
            rfl
          exact plain.recounted accepted _
  | sync | truncateFrom | get | readAll | close => cases asks

theorem Appends.accepted {ceiling : Option Nat} {payload : Bytes} {served : Served Reply}
    (appends : handle.Appends file records ceiling payload served)
    (mirrors : handle.Mirrors file records dangling) (answered : served.answer.isOk = true) :
    served.handle.closed = handle.closed ∧ served.handle.settings = handle.settings ∧
      served.handle.Mirrors served.file (records ++ [.ofPayload payload]) [] := by
  cases appends with
  | tooLarge | stopped => cases answered
  | written counters within permitted =>
      exact ⟨rfl, rfl, (mirrors.appended within).recounted _ counters⟩

end

end Handle

end FrameLog
