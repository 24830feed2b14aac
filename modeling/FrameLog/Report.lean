import FrameLog.Scan
import FrameLog.Settings

/-!
# Reports on a file

What a scan found, in figures. An empty file is reported as it stands, without the header
that opening would write.
-/

set_option autoImplicit false

namespace FrameLog

structure Report where
  recordsRecovered : Nat := 0
  recordsCorrupted : Nat := 0
  lastIndex : Nat := 0
  /-- Whether octets behind the last sound frame were, or would be, cut off. -/
  wasTruncated : Bool := false
  validBytes : Nat := 0
  deriving DecidableEq, Repr

namespace Scan

def soundEnd (scanned : Scan) : Nat := FileHeader.size + framesSize scanned.records

def offsets (scanned : Scan) : List Nat := frameOffsets FileHeader.size scanned.records

def report (scanned : Scan) : Report where
  recordsRecovered := scanned.records.length
  recordsCorrupted := if scanned.fault.isMismatch then 1 else 0
  lastIndex := scanned.records.length
  wasTruncated := scanned.fault ≠ .absent
  validBytes := scanned.soundEnd

end Scan

/-- Only the limit on payloads matters here, so the settings need not be coherent. -/
def verify (settings : Settings) (file : Bytes) : Except Failure Report :=
  if file.isEmpty then .ok {}
  else match readFileHeader file with
    | .error failure => .error failure
    | .ok _ => .ok (scanFile settings.maxPayloadSize file).report

end FrameLog
