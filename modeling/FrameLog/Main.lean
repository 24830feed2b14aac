import FrameLog.Command.Execution

/-!
# The program

Takes the part of the file system that a command concerns for a disk, runs the command on
it, and puts back what has changed.
-/

set_option autoImplicit false

namespace FrameLog

/-- Whether a directory stands at the path: only in a directory there is a `.`. -/
def isDirectory (path : String) : IO Bool := do
  try
    let _ ← IO.FS.realPath (path ++ "/.")
    return true
  catch _ => return false

def fileAt (path : String) : IO (Option Bytes) := do
  try
    let octets ← IO.FS.readBinFile path
    return some octets.toList
  catch _ => return none

def observe (path : Path) : IO Disk := do
  let mut disk : Disk := {}
  for station in path.stations do
    if ← isDirectory station.text then
      disk := (disk.makeDirectories station).2
    else if let some octets ← fileAt station.text then
      if let .ok (number, withFile) := disk.openFile station.text then
        disk := withFile.store number octets
  return disk

def commit (path : Path) (before after : Disk) : IO Unit := do
  if let .ok .directory := after.lookup path.parent.text then
    if !path.parent.parts.isEmpty then IO.FS.createDirAll path.parent.text
  if let .ok number := after.lookupFile path.text then
    let octets := after.read number
    let unchanged := (before.lookupFile path.text).toOption.any (before.read · = octets)
    if !unchanged then IO.FS.writeBinFile path.text octets.toByteArray

def runCommand (invocation : Invocation) : IO Shown := do
  match invocation.command.path?.bind Path.ofString? with
  | none => return (invocation.run {}).1
  | some path =>
      let before ← observe path
      let (shown, after) := invocation.run before
      commit path before after
      return shown

end FrameLog

def main (arguments : List String) : IO UInt32 := do
  let shown ← match FrameLog.Invocation.ofArguments arguments with
    | .error ending => do
        if ending ≠ .version then IO.eprintln FrameLog.Invocation.usage
        pure (FrameLog.Shown.ofEnding ending)
    | .ok invocation => FrameLog.runCommand invocation
  IO.print shown.text
  return shown.exitCode.toUInt32
