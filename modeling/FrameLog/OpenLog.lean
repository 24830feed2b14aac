import FrameLog.Cursor
import FrameLog.Disk
import FrameLog.Handle.Attach
import FrameLog.Handle.Request

/-!
# Logs on a disk

The settings are checked before the disk is touched, and missing directories are created.
From then on the handle works on its file, whatever becomes of the file's name.
-/

set_option autoImplicit false

namespace FrameLog

structure OpenLog where
  handle : Handle
  file : FileNumber
  deriving DecidableEq, Repr

namespace Disk

/-! ## Reading by path -/

def verify (disk : Disk) (path : String) (settings : Settings) : Except Failure Report :=
  match disk.lookupFile path with
  | .error cause => .error (.io cause)
  | .ok number => FrameLog.verify settings (disk.read number)

def startCursor (disk : Disk) (path : String) (maxPayloadSize : UInt32) :
    Except Failure (Cursor × FileNumber) :=
  match disk.lookupFile path with
  | .error cause => .error (.io cause)
  | .ok number =>
      (Cursor.start maxPayloadSize (disk.read number)).map fun cursor => (cursor, number)

def readStream (disk : Disk) (path : String) (maxPayloadSize : UInt32) :
    Except Failure (List (Except Failure Indexed)) :=
  (disk.startCursor path maxPayloadSize).map fun (cursor, number) =>
    Stream.toList ⟨cursor, false⟩ (disk.read number)

/-! ## Opening -/

def prepareFile (disk : Disk) (path : String) : Except IoCause FileNumber × Disk :=
  match Path.ofString? path with
  | none => (.error .notFound, disk)
  | some parsed =>
      match disk.makeDirectories parsed.parent with
      | (.error cause, disk) => (.error cause, disk)
      | (.ok (), disk) =>
          match disk.openFile path with
          | .error cause => (.error cause, disk)
          | .ok (number, disk) => (.ok number, disk)

structure LogOpening where
  answer : Except Failure OpenLog
  disk : Disk
  events : List Event

def openLog (disk : Disk) (path : String) (settings : Settings) (ceiling : Option Nat) :
    LogOpening :=
  match settings.check with
  | .error failure => ⟨.error failure, disk, []⟩
  | .ok () =>
      match disk.prepareFile path with
      | (.error cause, disk) => ⟨.error (.io cause), disk, []⟩
      | (.ok number, disk) =>
          let attachment := Handle.attach path settings ceiling (disk.read number)
          ⟨attachment.answer.map fun handle => ⟨handle, number⟩,
            disk.store number attachment.file, attachment.events⟩

end Disk

namespace OpenLog

structure Outcome (Value : Type) where
  answer : Except Failure Value
  log : OpenLog
  disk : Disk
  events : List Event

/-- Serves one request with the present contents of the log's file. -/
def apply {Value : Type} (log : OpenLog) (disk : Disk)
    (request : Handle → Bytes → Served Value) : Outcome Value :=
  let served := request log.handle (disk.read log.file)
  ⟨served.answer, { log with handle := served.handle }, disk.store log.file served.file,
    served.events⟩

def serve (log : OpenLog) (disk : Disk) (ceiling : Option Nat) (request : Request)
    (syncFailure : Option IoCause := none) : Outcome Reply :=
  log.apply disk fun handle file => handle.serve ceiling file request syncFailure

end OpenLog

end FrameLog
