import FrameLog.Event
import FrameLog.Positions
import FrameLog.Report

/-!
# Log handles

A handle does not hold its file. The contents are passed to every request, so that whatever
happens to a file behind a handle's back is a change of that argument.
-/

set_option autoImplicit false

namespace FrameLog

/-- What one handle has done since it was opened. Nothing reads the counters back. -/
structure Counters where
  writes : Nat := 0
  /-- Syncs asked for, alone or after an append, and the one of closing. -/
  syncs : Nat := 0
  bytesWritten : Nat := 0
  corruptions : Nat := 0
  deriving DecidableEq, Repr

namespace Counters

def countWrite (counters : Counters) (size : Nat) : Counters :=
  { counters with
    writes := counters.writes + 1
    bytesWritten := counters.bytesWritten + size }

def countSync (counters : Counters) : Counters :=
  { counters with syncs := counters.syncs + 1 }

def countCorruption (counters : Counters) : Counters :=
  { counters with corruptions := counters.corruptions + 1 }

end Counters

structure Handle where
  path : String
  settings : Settings
  positions : Positions
  /-- Where the next frame goes: the end of the last sound one. -/
  writeOffset : Nat
  nextIndex : Nat
  closed : Bool := false
  counters : Counters := {}
  report : Report
  deriving DecidableEq, Repr

namespace Handle

def lastIndex (handle : Handle) : Nat := handle.positions.lastIndex

def length (handle : Handle) : Nat := handle.positions.length

def isEmpty (handle : Handle) : Bool := handle.positions.isEmpty

def hasSynced (handle : Handle) : Bool := 0 < handle.counters.syncs

end Handle

end FrameLog
