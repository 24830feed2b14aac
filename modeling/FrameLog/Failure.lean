import FrameLog.Text.Hex

/-!
# Failures

Why a request on a log cannot be met, with the figures the cause was found with. The
wording stands in one function for each type.
-/

set_option autoImplicit false

namespace FrameLog

inductive IoCause where
  | notFound
  | alreadyExists
  | notADirectory
  | isADirectory
  | fileTooLarge
  /-- A write that moved nothing although there was something to move. -/
  | writeZero
  | occupied (path : String)
  deriving DecidableEq, Repr

inductive Corruption where
  | shortFileHeader (available : Nat)
  | wrongMagic (found : UInt32)
  | unsupportedVersion (found : UInt32)
  /-- Of a frame held in memory, like the next one. -/
  | shortFrame (size : Nat)
  | payloadLength (declared : UInt32) (held : Nat)
  | noFrame (offset : Nat)
  | partialFrameHeader (offset available : Nat)
  | oversizedFrame (offset : Nat) (declared : UInt32)
  | tornFrame (offset : Nat) (declared : UInt32) (available : Nat)
  deriving DecidableEq, Repr

inductive Failure where
  | io (cause : IoCause)
  | corrupted (detail : Corruption)
  | checksumMismatch (offset : Nat) (stored computed : UInt32)
  | payloadTooLarge (size : Nat) (limit : UInt32)
  | indexOutOfRange (index lastIndex : Nat)
  | invalidTruncation (index length : Nat)
  | closed
  | segmentTooSmall (maxSegmentSize : UInt64) (maxPayloadSize : UInt32)
  deriving DecidableEq, Repr

/-! ## Wording -/

def IoCause.message : IoCause → String
  | notFound => "No such file or directory (os error 2)"
  | alreadyExists => "File exists (os error 17)"
  | notADirectory => "Not a directory (os error 20)"
  | isADirectory => "Is a directory (os error 21)"
  | fileTooLarge => "File too large (os error 27)"
  | writeZero => "failed to write whole frame"
  | occupied path => s!"{path} already exists"

def Corruption.message : Corruption → String
  | shortFileHeader available => s!"file header is {available} bytes, expected 8"
  | wrongMagic found =>
      s!"bad magic number: expected 0x57414c21, got {Text.hexWord found}"
  | unsupportedVersion found => s!"unsupported format version: {found}"
  | shortFrame size => s!"frame is {size} bytes, shorter than the 9-byte header"
  | payloadLength declared held =>
      s!"frame declares {declared} payload bytes but holds {held}"
  | noFrame offset => s!"no frame at offset {offset}"
  | partialFrameHeader offset available =>
      s!"partial frame header at offset {offset} ({available} of 9 bytes)"
  | oversizedFrame offset declared =>
      s!"frame at offset {offset} declares oversized length {declared}"
  | tornFrame offset declared available =>
      s!"torn frame at offset {offset}: {available} of {declared} payload bytes"

def Failure.message : Failure → String
  | io cause => s!"IO error: {cause.message}"
  | corrupted detail => s!"WAL file is corrupted: {detail.message}"
  | checksumMismatch offset stored computed =>
      s!"checksum mismatch at offset {offset}: " ++
        s!"stored {Text.hexWord stored}, computed {Text.hexWord computed}"
  | payloadTooLarge size limit =>
      s!"entry of {size} bytes exceeds maximum size of {limit} bytes"
  | indexOutOfRange index lastIndex =>
      s!"index {index} out of range (last index: {lastIndex})"
  | invalidTruncation index length =>
      s!"invalid truncate index: {index} (current log size: {length})"
  | closed => "WAL is closed"
  | segmentTooSmall maxSegmentSize maxPayloadSize =>
      s!"Configuration error: max_segment_size ({maxSegmentSize}) cannot hold " ++
        s!"a single entry of max_entry_size ({maxPayloadSize})"

/-- Failures that mean the octets in the file cannot be trusted. -/
def Failure.isCorruption : Failure → Bool
  | corrupted _ | checksumMismatch .. => true
  | _ => false

end FrameLog
