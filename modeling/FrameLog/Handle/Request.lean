import FrameLog.Handle
import FrameLog.Transfer

/-!
# Requests on a log

What the system does about a request is given with it: the ceiling on file sizes, and how a
sync ends. A failed append cuts the file back to the write offset; a sync that fails takes
nothing back of what was done before it.
-/

set_option autoImplicit false

namespace FrameLog

structure Served (Value : Type) where
  answer : Except Failure Value
  handle : Handle
  file : Bytes
  events : List Event

namespace Served

def refused {Value : Type} (handle : Handle) (file : Bytes) (failure : Failure) : Served Value :=
  ⟨.error failure, handle, file, []⟩

def map {Value Result : Type} (transform : Value → Result) (served : Served Value) :
    Served Result :=
  { served with answer := served.answer.map transform }

end Served

namespace Handle

/-! ## Writing -/

def append (ceiling : Option Nat) (handle : Handle) (file payload : Bytes) : Served Nat :=
  if handle.closed then .refused handle file .closed
  else if handle.settings.maxPayloadSize.toNat < payload.length then
    .refused handle file (.payloadTooLarge payload.length handle.settings.maxPayloadSize)
  else
    let frame := (Record.ofPayload payload).encode
    let written := Transfer.write ceiling file handle.writeOffset frame
    match written.failure with
    | some cause =>
        let cutBack := Transfer.setLength ceiling written.contents handle.writeOffset
        ⟨.error (.io cause), handle, cutBack.contents,
          (cutBack.failure.map (Event.rollbackFailed handle.writeOffset)).toList⟩
    | none =>
        let (positions, index) := handle.positions.push handle.writeOffset
        let writeOffset := handle.writeOffset + frame.length
        let outgrown :=
          if handle.settings.maxSegmentSize.toNat < writeOffset then
            [Event.outgrown writeOffset handle.settings.maxSegmentSize]
          else []
        ⟨.ok index,
          { handle with
            positions
            writeOffset
            nextIndex := index + 1
            counters := handle.counters.countWrite frame.length },
          written.contents,
          outgrown ++ [.appended index handle.writeOffset payload.length]⟩

def sync (handle : Handle) (file : Bytes) (syncFailure : Option IoCause := none) : Served Unit :=
  if handle.closed then .refused handle file .closed
  else match syncFailure with
    | some cause => .refused handle file (.io cause)
    | none => ⟨.ok (), { handle with counters := handle.counters.countSync }, file, []⟩

def appendAndSync (ceiling : Option Nat) (handle : Handle) (file payload : Bytes)
    (syncFailure : Option IoCause := none) : Served Nat :=
  let served := handle.append ceiling file payload
  match served.answer, syncFailure with
  | .error _, _ => served
  | .ok _, some cause => { served with answer := .error (.io cause) }
  | .ok _, none =>
      { served with
        handle := { served.handle with counters := served.handle.counters.countSync } }

/-- Once the file is cut, the handle keeps in step with it, whether or not the cut can be made
durable. -/
def truncateFrom (ceiling : Option Nat) (handle : Handle) (file : Bytes) (index : Nat)
    (syncFailure : Option IoCause := none) : Served Unit :=
  if handle.closed then .refused handle file .closed
  else match handle.positions.truncateFrom index with
    | (_, none) => .refused handle file (.invalidTruncation index handle.length)
    | (positions, some offset) =>
        let cut := Transfer.setLength ceiling file offset
        let shorter := { handle with positions, writeOffset := offset, nextIndex := index }
        match cut.failure, syncFailure with
        | some cause, _ => .refused handle cut.contents (.io cause)
        | none, some cause => ⟨.error (.io cause), shorter, cut.contents, []⟩
        | none, none =>
            ⟨.ok (), shorter, cut.contents,
              [.truncated index offset (handle.length - (index - 1))]⟩

/-- Releases the file after a last sync, even if that fails. Closing again does nothing. -/
def close (handle : Handle) (file : Bytes) (syncFailure : Option IoCause := none) : Served Unit :=
  if handle.closed then ⟨.ok (), handle, file, []⟩
  else match syncFailure with
    | some cause =>
        ⟨.ok (), { handle with closed := true }, file,
          [.finalSyncFailed handle.path cause, .closed handle.path]⟩
    | none =>
        ⟨.ok (), { handle with closed := true, counters := handle.counters.countSync }, file,
          [.closed handle.path]⟩

/-! ## Reading -/

def readPayload (handle : Handle) (file : Bytes) (offset : Nat) : Served Bytes :=
  match readFrameAt handle.settings.maxPayloadSize file offset with
  | .ok record => ⟨.ok record.payload, handle, file, []⟩
  | .error fault =>
      if fault.isMismatch then
        ⟨.error (fault.failure offset),
          { handle with counters := handle.counters.countCorruption }, file,
          [.mismatchOnRead handle.path offset]⟩
      else .refused handle file (fault.failure offset)

def get (handle : Handle) (file : Bytes) (index : Nat) : Served Bytes :=
  if handle.closed then .refused handle file .closed
  else match handle.positions.offsetOf? index with
    | none => .refused handle file (.indexOutOfRange index handle.lastIndex)
    | some offset => handle.readPayload file offset

def readPayloads (handle : Handle) (file : Bytes) : List Nat → Served (List Bytes)
  | [] => ⟨.ok [], handle, file, []⟩
  | offset :: offsets =>
      let first := handle.readPayload file offset
      match first.answer with
      | .error failure => { first with answer := .error failure }
      | .ok payload => (handle.readPayloads file offsets).map (payload :: ·)

/-- All payloads in log order; none if any record is unreadable. -/
def readAll (handle : Handle) (file : Bytes) : Served (List Bytes) :=
  if handle.closed then .refused handle file .closed
  else handle.readPayloads file handle.positions.offsets

end Handle

/-! ## Requests as values -/

inductive Request where
  | append (payload : Bytes)
  | appendAndSync (payload : Bytes)
  | sync
  | truncateFrom (index : Nat)
  | get (index : Nat)
  | readAll
  | close
  deriving DecidableEq, Repr

inductive Reply where
  | index (assigned : Nat)
  | payload (octets : Bytes)
  | payloads (all : List Bytes)
  | done
  deriving DecidableEq, Repr

def Handle.serve (ceiling : Option Nat) (handle : Handle) (file : Bytes) (request : Request)
    (syncFailure : Option IoCause := none) : Served Reply :=
  match request with
  | .append payload => (handle.append ceiling file payload).map .index
  | .appendAndSync payload => (handle.appendAndSync ceiling file payload syncFailure).map .index
  | .sync => (handle.sync file syncFailure).map fun _ => .done
  | .truncateFrom index =>
      (handle.truncateFrom ceiling file index syncFailure).map fun _ => .done
  | .get index => (handle.get file index).map .payload
  | .readAll => (handle.readAll file).map .payloads
  | .close => (handle.close file syncFailure).map fun _ => .done

end FrameLog
