import FrameLog.Handle.Run

/-!
# Logs as lists of payloads

What a log is to those who use it: its payloads in order, and whether it is open. A ceiling
on the file can be told from this too, since the payloads determine the size of the file.
-/

set_option autoImplicit false

namespace FrameLog

structure PlainLog where
  payloads : List Bytes := []
  closed : Bool := false
  deriving DecidableEq, Repr

namespace PlainLog

def length (log : PlainLog) : Nat := log.payloads.length

/-- The size of a file that holds these payloads and nothing else. -/
def fileSize (log : PlainLog) : Nat :=
  log.payloads.foldl (fun size payload => size + FrameHeader.size + payload.length)
    FileHeader.size

def Permits (ceiling : Option Nat) (size : Nat) : Prop := ∀ most ∈ ceiling, size ≤ most

instance (ceiling : Option Nat) (size : Nat) : Decidable (Permits ceiling size) :=
  inferInstanceAs (Decidable (∀ most ∈ ceiling, size ≤ most))

theorem permits_none (size : Nat) : Permits none size := by
  intro most member
  cases member

def objection? (limit : UInt32) (ceiling : Option Nat) (log : PlainLog) (payload : Bytes) :
    Option Failure :=
  if limit.toNat < payload.length then some (.payloadTooLarge payload.length limit)
  else if Permits ceiling (log.fileSize + FrameHeader.size + payload.length) then none
  else some (.io .fileTooLarge)

def append (limit : UInt32) (ceiling : Option Nat) (log : PlainLog) (payload : Bytes) :
    Except Failure Reply × PlainLog :=
  match log.objection? limit ceiling payload with
  | some failure => (.error failure, log)
  | none =>
      (.ok (.index (log.length + 1)), { log with payloads := log.payloads ++ [payload] })

def serve (limit : UInt32) (ceiling : Option Nat) (log : PlainLog) (request : Request) :
    Except Failure Reply × PlainLog :=
  match log.closed, request with
  | _, .close => (.ok .done, { log with closed := true })
  | true, _ => (.error .closed, log)
  | false, .append payload | false, .appendAndSync payload => log.append limit ceiling payload
  | false, .sync => (.ok .done, log)
  | false, .truncateFrom index =>
      if 1 ≤ index ∧ index ≤ log.length then
        (.ok .done, { log with payloads := log.payloads.take (index - 1) })
      else (.error (.invalidTruncation index log.length), log)
  | false, .get index =>
      if index = 0 then (.error (.indexOutOfRange index log.length), log)
      else match log.payloads[index - 1]? with
        | some payload => (.ok (.payload payload), log)
        | none => (.error (.indexOutOfRange index log.length), log)
  | false, .readAll => (.ok (.payloads log.payloads), log)

def reopened (log : PlainLog) : PlainLog := { log with closed := false }

end PlainLog

end FrameLog
