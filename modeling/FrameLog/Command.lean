import FrameLog.Settings

/-!
# Commands

When only the limit on payloads is given, the one on the size of the file is raised so that
a largest record still fits.
-/

set_option autoImplicit false

namespace FrameLog

inductive Command where
  /-- Goes through the life of a log that is removed afterwards, in this directory. -/
  | demo (directory : Option String)
  | append (path : String) (items : List String) (synced : Bool)
  | get (path : String) (index : UInt64)
  | dump (path : String)
  | truncate (path : String) (index : UInt64)
  | verify (path : String)
  | stats (path : String)
  deriving DecidableEq, Repr

structure Limits where
  maxPayloadSize : Option UInt32 := none
  maxSegmentSize : Option UInt64 := none
  deriving DecidableEq, Repr

namespace Limits

/-- Limits given behind the name of a command go before those in front of it. -/
def orElse (limits outer : Limits) : Limits where
  maxPayloadSize := limits.maxPayloadSize <|> outer.maxPayloadSize
  maxSegmentSize := limits.maxSegmentSize <|> outer.maxSegmentSize

def settings (limits : Limits) : Settings :=
  let standard : Settings := {}
  let maxPayloadSize := limits.maxPayloadSize.getD standard.maxPayloadSize
  let raised := max standard.maxSegmentSize (.ofNat (Settings.smallestSegment maxPayloadSize))
  { standard with
    maxPayloadSize
    maxSegmentSize := limits.maxSegmentSize.getD raised }

theorem le_max_right (left right : UInt64) : right ≤ max left right := by
  change right ≤ if left ≤ right then right else left
  split
  · exact UInt64.le_refl right
  · next less => exact UInt64.le_of_lt (UInt64.not_le.mp less)

/-- Without a limit on the file, the limit on payloads is never in its way. -/
theorem settings_coherent {limits : Limits} (unset : limits.maxSegmentSize = none) :
    limits.settings.Coherent := by
  simp only [settings, unset, Option.getD_none, Settings.Coherent]
  generalize limits.maxPayloadSize.getD _ = maxPayloadSize
  have bound := maxPayloadSize.toNat_lt
  have raised : (UInt64.ofNat (Settings.smallestSegment maxPayloadSize)).toNat =
      Settings.smallestSegment maxPayloadSize := by
    simp only [UInt64.toNat_ofNat', Settings.smallestSegment, FileHeader.size, FrameHeader.size]
    omega
  rw [← raised, ← UInt64.le_iff_toNat_le, raised]
  exact le_max_right _ _

end Limits

structure Invocation where
  command : Command
  limits : Limits := {}
  deriving DecidableEq, Repr

end FrameLog
