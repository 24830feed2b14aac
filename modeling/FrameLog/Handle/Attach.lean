import FrameLog.Handle
import FrameLog.Transfer

/-!
# Attaching a handle to a file

A file shorter than a header can only be an interrupted creation, or no log at all. Any
other file is scanned, and what stands behind its sound records is cut off, kept or refused
as the settings say. Every refusal leaves the file as it was.
-/

set_option autoImplicit false

namespace FrameLog

structure Attachment (Value : Type) where
  answer : Except Failure Value
  file : Bytes
  events : List Event

structure Recovered where
  positions : Positions
  writeOffset : Nat
  report : Report
  deriving DecidableEq, Repr

/-- Under a ceiling the header may end up torn. -/
def startLog (ceiling : Option Nat) (file : Bytes) (wasTruncated : Bool) (events : List Event) :
    Attachment Recovered :=
  let written := Transfer.write ceiling file 0 FileHeader.current.encode
  match written.failure with
  | some cause => ⟨.error (.io cause), written.contents, events⟩
  | none =>
      ⟨.ok ⟨.empty, FileHeader.size, { wasTruncated, validBytes := FileHeader.size }⟩,
        written.contents, events⟩

/-- Fewer octets than a frame header needs are never a reason to refuse a log. -/
def settleTail (policy : TailPolicy) (file : Bytes) (scanned : Scan) : Attachment Recovered :=
  let recovered (report : Report) : Recovered := ⟨⟨scanned.offsets⟩, scanned.soundEnd, report⟩
  match scanned.fault, policy with
  | .absent, _ => ⟨.ok (recovered scanned.report), file, []⟩
  | .partialHeader _, .truncate =>
      ⟨.ok (recovered scanned.report), file.resize scanned.soundEnd,
        [.trimmedPartialHeader scanned.soundEnd]⟩
  | .partialHeader _, .strict =>
      ⟨.ok (recovered { scanned.report with wasTruncated := false }), file, []⟩
  | fault, .truncate =>
      ⟨.ok (recovered scanned.report), file.resize scanned.soundEnd,
        [.cuttingTail scanned.soundEnd fault scanned.records.length]⟩
  | fault, .strict => ⟨.error (fault.failure scanned.soundEnd), file, []⟩

def recover (settings : Settings) (ceiling : Option Nat) (file : Bytes) : Attachment Recovered :=
  if file.isEmpty then startLog ceiling file false []
  else if file.length < FileHeader.size then
    if file = FileHeader.current.encode.take file.length ∧ settings.tailPolicy = .truncate then
      startLog ceiling file true [.mendingFileHeader file.length]
    else ⟨.error (.corrupted (.shortFileHeader file.length)), file, []⟩
  else match readFileHeader file with
    | .error failure => ⟨.error failure, file, []⟩
    | .ok _ =>
        settleTail settings.tailPolicy file (scanFile settings.maxPayloadSize file)

namespace Handle

def ofRecovered (path : String) (settings : Settings) (recovered : Recovered) : Handle where
  path
  settings
  positions := recovered.positions
  writeOffset := recovered.writeOffset
  nextIndex := recovered.positions.lastIndex + 1
  counters := { corruptions := recovered.report.recordsCorrupted }
  report := recovered.report

/-- That the settings are coherent is for the caller to check, before it touches any file. -/
def attach (path : String) (settings : Settings) (ceiling : Option Nat) (file : Bytes) :
    Attachment Handle :=
  let ⟨answer, file, events⟩ := recover settings ceiling file
  match answer with
  | .error failure => ⟨.error failure, file, events⟩
  | .ok recovered =>
      ⟨.ok (.ofRecovered path settings recovered), file,
        events ++ [.opened path recovered.report.recordsRecovered recovered.report.wasTruncated]⟩

end Handle

end FrameLog
