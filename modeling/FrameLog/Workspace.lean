import FrameLog.Command.Execution
import FrameLog.Handle.Writers
import FrameLog.Slots

/-!
# Workspaces

Many logs, readers and streams over one disk, side by side with changes that are made to
the files behind their backs.

The ceiling on file sizes is put up whenever a log is opened or appended to, and taken down
again; every sync succeeds.
-/

set_option autoImplicit false

namespace FrameLog

structure Workspace where
  disk : Disk
  ceiling : Option Nat := none
  logs : Slots OpenLog := {}
  readers : Slots (Cursor × FileNumber) := {}
  streams : Slots (Stream × FileNumber) := {}

/-! ## Calls and answers -/

inductive FileCall where
  /-- Gives the file these contents, and creates it if need be. -/
  | write (octets : Bytes)
  | append (octets : Bytes)
  | overlay (offset : Nat) (octets : Bytes)
  | flip (offset : Nat) (mask : UInt8)
  | resize (length : Nat)
  | remove
  | makeDirectories
  | read
  deriving DecidableEq, Repr

inductive Call where
  | openLog (slot : Nat) (path : String) (settings : Settings)
  | request (slot : Nat) (request : Request)
  /-- Lets several writers append `count` payloads each through one handle. -/
  | writers (slot writers count : Nat) (synced : Bool)
  | describe (slot : Nat)
  | dropLog (slot : Nat)
  | verify (path : String) (settings : Settings)
  | openReader (slot : Nat) (path : String) (maxPayloadSize : UInt32)
  | readNext (slot : Nat)
  /-- Turns a reader into a stream. -/
  | startStream (slot : Nat)
  | streamNext (slot : Nat)
  | readStream (path : String) (maxPayloadSize : UInt32)
  | file (path : String) (call : FileCall)
  | setCeiling (most : Option Nat)
  | program (arguments : List String)
  deriving DecidableEq, Repr

inductive Answer where
  | done
  | reply (reply : Reply)
  | report (report : Report)
  | description (path : String) (settings : Settings) (report : Report)
  | dropped (wasOpen : Bool)
  | tally (tally : Tally) (payloads : List Bytes)
  | position (offset : Nat)
  /-- What the reader found, and where it stands now. -/
  | read (found : Except Failure (Option Indexed)) (position : Nat)
  | item (item : Option (Except Failure Indexed))
  | items (items : List (Except Failure Indexed))
  | contents (octets : Bytes)
  | ceiling (most : Option Nat)
  | shown (shown : Shown)

inductive Refusal where
  | failure (failure : Failure)
  /-- Nothing is open under the number given. -/
  | nothingOpen
  | file (cause : IoCause)
  | offsetPastEnd
  deriving DecidableEq, Repr

namespace Workspace

structure Outcome where
  answer : Except Refusal Answer
  workspace : Workspace
  events : List Event := []

namespace Outcome

def refused (workspace : Workspace) (refusal : Refusal) : Outcome :=
  ⟨.error refusal, workspace, []⟩

def answered (workspace : Workspace) (answer : Answer) : Outcome := ⟨.ok answer, workspace, []⟩

def ofExcept (workspace : Workspace) (answer : Except Failure Answer) : Outcome :=
  ⟨answer.mapError .failure, workspace, []⟩

end Outcome

/-! ## Logs -/

/-- Empties a slot; a log that was in it is closed first. -/
def dropLog (workspace : Workspace) (slot : Nat) : Outcome :=
  match workspace.logs.get? slot with
  | none => .answered workspace (.dropped false)
  | some log =>
      let closed := log.apply workspace.disk Handle.close
      ⟨.ok (.dropped true),
        { workspace with disk := closed.disk, logs := workspace.logs.clear slot },
        closed.events⟩

def openLog (workspace : Workspace) (slot : Nat) (path : String) (settings : Settings) :
    Outcome :=
  let dropped := workspace.dropLog slot
  let workspace := dropped.workspace
  let opening := workspace.disk.openLog path settings workspace.ceiling
  let workspace := { workspace with disk := opening.disk }
  match opening.answer with
  | .error failure => ⟨.error (.failure failure), workspace, dropped.events ++ opening.events⟩
  | .ok log =>
      ⟨.ok (.report log.handle.report),
        { workspace with logs := workspace.logs.put slot log },
        dropped.events ++ opening.events⟩

def ceilingFor (workspace : Workspace) : Request → Option Nat
  | .append _ | .appendAndSync _ => workspace.ceiling
  | .sync | .truncateFrom _ | .get _ | .readAll | .close => none

def request (workspace : Workspace) (slot : Nat) (request : Request) : Outcome :=
  match workspace.logs.get? slot with
  | none => .refused workspace .nothingOpen
  | some log =>
      let outcome := log.serve workspace.disk (workspace.ceilingFor request) request
      ⟨(outcome.answer.map Answer.reply).mapError .failure,
        { workspace with disk := outcome.disk, logs := workspace.logs.put slot outcome.log },
        outcome.events⟩

/-- Each payload holds the number of its writer and its own. -/
def writersRequests (writers count : Nat) (synced : Bool) : List (List Request) :=
  (List.range writers).map fun writer => (List.range count).map fun number =>
    let payload := [.ofNat writer, .ofNat number]
    if synced then .appendAndSync payload else .append payload

def serveWriters (workspace : Workspace) (slot writers count : Nat) (synced : Bool) : Outcome :=
  match workspace.logs.get? slot with
  | none => .refused workspace .nothingOpen
  | some log =>
      let schedule := Made.inTurn 0 (writersRequests writers count synced)
      let run := log.handle.runSchedule (workspace.disk.read log.file) schedule
      let all := run.handle.readAll run.file
      let payloads := (all.answer.toOption.getD []).mergeSort
      ⟨.ok (.tally (.ofAnswers schedule run.answers) payloads),
        { workspace with
          disk := workspace.disk.store log.file all.file
          logs := workspace.logs.put slot { log with handle := all.handle } },
        run.events ++ all.events⟩

def describe (workspace : Workspace) (slot : Nat) : Outcome :=
  match workspace.logs.get? slot with
  | none => .refused workspace .nothingOpen
  | some log =>
      .answered workspace (.description log.handle.path log.handle.settings log.handle.report)

/-! ## Readers and streams -/

def openReader (workspace : Workspace) (slot : Nat) (path : String) (maxPayloadSize : UInt32) :
    Outcome :=
  let workspace :=
    { workspace with
      readers := workspace.readers.clear slot
      streams := workspace.streams.clear slot }
  match workspace.disk.startCursor path maxPayloadSize with
  | .error failure => .refused workspace (.failure failure)
  | .ok (cursor, number) =>
      .answered { workspace with readers := workspace.readers.put slot (cursor, number) }
        (.position cursor.position)

def readNext (workspace : Workspace) (slot : Nat) : Outcome :=
  match workspace.readers.get? slot with
  | none => .refused workspace .nothingOpen
  | some (cursor, number) =>
      let (found, cursor) := cursor.next (workspace.disk.read number)
      .answered { workspace with readers := workspace.readers.put slot (cursor, number) }
        (.read found cursor.position)

def startStream (workspace : Workspace) (slot : Nat) : Outcome :=
  match workspace.readers.get? slot with
  | none => .refused workspace .nothingOpen
  | some (cursor, number) =>
      .answered
        { workspace with
          readers := workspace.readers.clear slot
          streams := workspace.streams.put slot (⟨cursor, false⟩, number) }
        .done

def streamNext (workspace : Workspace) (slot : Nat) : Outcome :=
  match workspace.streams.get? slot with
  | none => .refused workspace .nothingOpen
  | some (stream, number) =>
      let (item, stream) := stream.next (workspace.disk.read number)
      .answered { workspace with streams := workspace.streams.put slot (stream, number) }
        (.item item)

/-! ## Files -/

def changeFile (workspace : Workspace) (path : String) (change : Bytes → Option Bytes) :
    Outcome :=
  match workspace.disk.lookupFile path with
  | .error cause => .refused workspace (.file cause)
  | .ok number =>
      match change (workspace.disk.read number) with
      | none => .refused workspace .offsetPastEnd
      | some contents =>
          .answered { workspace with disk := workspace.disk.store number contents } .done

def serveFile (workspace : Workspace) (path : String) : FileCall → Outcome
  | .write octets =>
      match workspace.disk.openFile path with
      | .error cause => .refused workspace (.file cause)
      | .ok (number, disk) =>
          .answered { workspace with disk := disk.store number octets } .done
  | .append octets => workspace.changeFile path fun contents => some (contents ++ octets)
  | .overlay offset octets =>
      workspace.changeFile path fun contents => some (contents.overlay offset octets)
  | .flip offset mask => workspace.changeFile path (Bytes.flip? · offset mask)
  | .resize length => workspace.changeFile path fun contents => some (contents.resize length)
  | .remove =>
      match workspace.disk.removeFile path with
      | .error cause => .refused workspace (.file cause)
      | .ok disk => .answered { workspace with disk } .done
  | .makeDirectories =>
      match Path.ofString? path with
      | none => .answered workspace .done
      | some path =>
          match workspace.disk.makeDirectories path with
          | (.error cause, disk) => .refused { workspace with disk } (.file cause)
          | (.ok (), disk) => .answered { workspace with disk } .done
  | .read =>
      match workspace.disk.lookupFile path with
      | .error cause => .refused workspace (.file cause)
      | .ok number => .answered workspace (.contents (workspace.disk.read number))

/-! ## All calls -/

def serve (workspace : Workspace) : Call → Outcome
  | .openLog slot path settings => workspace.openLog slot path settings
  | .request slot request => workspace.request slot request
  | .writers slot writers count synced => workspace.serveWriters slot writers count synced
  | .describe slot => workspace.describe slot
  | .dropLog slot => workspace.dropLog slot
  | .verify path settings =>
      .ofExcept workspace ((workspace.disk.verify path settings).map .report)
  | .openReader slot path maxPayloadSize => workspace.openReader slot path maxPayloadSize
  | .readNext slot => workspace.readNext slot
  | .startStream slot => workspace.startStream slot
  | .streamNext slot => workspace.streamNext slot
  | .readStream path maxPayloadSize =>
      .ofExcept workspace
        ((workspace.disk.readStream path maxPayloadSize).map .items)
  | .file path call => workspace.serveFile path call
  | .setCeiling most => .answered { workspace with ceiling := most } (.ceiling most)
  | .program arguments =>
      let (shown, disk) := workspace.disk.runProgram arguments
      .answered { workspace with disk } (.shown shown)

end Workspace

end FrameLog
