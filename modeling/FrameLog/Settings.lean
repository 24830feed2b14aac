import FrameLog.Header
import FrameLog.Record

/-!
# Settings of a log

The size of a file is advice: a log that outgrows it is reported and goes on. Settings are
coherent when a file of that size can hold one largest record.
-/

set_option autoImplicit false

namespace FrameLog

/-- What opening does with octets that are no sound frame. -/
inductive TailPolicy where
  | truncate
  | strict
  deriving DecidableEq, Repr

structure Settings where
  maxPayloadSize : UInt32 := 10485760
  maxSegmentSize : UInt64 := 104857600
  tailPolicy : TailPolicy := .truncate
  deriving DecidableEq, Repr

namespace Settings

def smallestSegment (maxPayloadSize : UInt32) : Nat :=
  FileHeader.size + FrameHeader.size + maxPayloadSize.toNat

def Coherent (settings : Settings) : Prop :=
  smallestSegment settings.maxPayloadSize ≤ settings.maxSegmentSize.toNat

instance (settings : Settings) : Decidable settings.Coherent :=
  inferInstanceAs (Decidable (_ ≤ _))

def check (settings : Settings) : Except Failure Unit :=
  if settings.Coherent then .ok ()
  else .error (.segmentTooSmall settings.maxSegmentSize settings.maxPayloadSize)

end Settings

end FrameLog
