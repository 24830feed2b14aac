import FrameLog.Frame

/-!
# Events

An event is a value with its figures; level, message and fields are functions of it.
-/

set_option autoImplicit false

namespace FrameLog

inductive Level where
  | trace
  | debug
  | info
  | warn
  deriving DecidableEq, Repr

inductive Event where
  | opened (path : String) (records : Nat) (truncated : Bool)
  | closed (path : String)
  | appended (index offset length : Nat)
  /-- Reported in front of the append that crossed the advised size. -/
  | outgrown (size : Nat) (maxSegmentSize : UInt64)
  | truncated (fromIndex offset removed : Nat)
  | cuttingTail (offset : Nat) (fault : Fault) (recovered : Nat)
  | trimmedPartialHeader (offset : Nat)
  | mendingFileHeader (available : Nat)
  | mismatchOnRead (path : String) (offset : Nat)
  /-- A failed append left octets behind, because cutting them off failed as well. -/
  | rollbackFailed (offset : Nat) (cause : IoCause)
  | finalSyncFailed (path : String) (cause : IoCause)
  deriving DecidableEq, Repr

inductive FieldValue where
  | number (value : Nat)
  | flag (value : Bool)
  | text (value : String)
  deriving DecidableEq, Repr

def Fault.description : Fault → String
  | absent => "End"
  | partialHeader available => s!"PartialHeader \x7b available: {available} \x7d"
  | oversized declared => s!"TooLarge \x7b length: {declared} \x7d"
  | torn declared available =>
      s!"Torn \x7b declared: {declared}, available: {available} \x7d"
  | mismatch stored computed =>
      s!"ChecksumMismatch \x7b expected: {stored}, actual: {computed} \x7d"

namespace Event

def level : Event → Level
  | appended .. => .trace
  | closed .. | truncated .. | trimmedPartialHeader .. => .debug
  | opened .. => .info
  | outgrown .. | cuttingTail .. | mendingFileHeader .. | mismatchOnRead ..
  | rollbackFailed .. | finalSyncFailed .. => .warn

def message : Event → String
  | opened .. => "opened WAL"
  | closed .. => "closed WAL"
  | appended .. => "appended entry"
  | outgrown .. => "WAL file has grown past max_segment_size"
  | truncated .. => "truncated WAL"
  | cuttingTail .. => "truncating unsound WAL tail"
  | trimmedPartialHeader .. => "trimmed partial frame header"
  | mendingFileHeader .. => "rewriting torn WAL file header"
  | mismatchOnRead .. => "checksum mismatch on read"
  | rollbackFailed .. => "failed to roll back partial append"
  | finalSyncFailed .. => "final sync on close failed"

def fields : Event → List (String × FieldValue)
  | opened path records cut =>
      [("path", .text path), ("entries", .number records), ("truncated", .flag cut)]
  | closed path => [("path", .text path)]
  | appended index offset length =>
      [("index", .number index), ("offset", .number offset), ("len", .number length)]
  | outgrown size maxSegmentSize =>
      [("size", .number size), ("max", .number maxSegmentSize.toNat)]
  | truncated fromIndex offset removed =>
      [("from_index", .number fromIndex), ("offset", .number offset),
        ("removed", .number removed)]
  | cuttingTail offset fault recovered =>
      [("offset", .number offset), ("reason", .text fault.description),
        ("recovered", .number recovered)]
  | trimmedPartialHeader offset => [("offset", .number offset)]
  | mendingFileHeader available => [("bytes", .number available)]
  | mismatchOnRead path offset => [("path", .text path), ("offset", .number offset)]
  | rollbackFailed offset cause =>
      [("offset", .number offset), ("error", .text cause.message)]
  | finalSyncFailed path cause => [("path", .text path), ("error", .text cause.message)]

end Event

end FrameLog
