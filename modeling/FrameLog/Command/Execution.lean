import FrameLog.Command.Arguments
import FrameLog.Command.Script
import FrameLog.Report
import FrameLog.Text.Utf8
import FrameLog.Text.Visible

/-!
# Running commands

Each command opens the log by its path, prints what it did, and closes the log. A command
that fails ends with a line that says why.
-/

set_option autoImplicit false

namespace FrameLog

def shownRecord (index : Nat) (payload : Bytes) : String := s!"[{index}] {Utf8.decode payload}"

namespace Script

/-! ## Single commands -/

def appendItems (log : OpenLog) (synced : Bool) : List String → Script OpenLog
  | [] => pure log
  | item :: items => do
      let (index, log) ← append log (Utf8.encode item) synced
      print s!"appended [{index}] {item}"
      appendItems log synced items

/-- Prints the records of a stream, up to the first that cannot be read. -/
def printItems : List (Except Failure Indexed) → Script Unit
  | [] => pure ()
  | .error failure :: _ => inspect fun _ => .error failure
  | .ok indexed :: items => do
      print (shownRecord indexed.index indexed.record.payload)
      printItems items

def printReport (report : Report) : Script Unit := do
  print s!"valid entries:   {report.recordsRecovered}"
  print s!"last index:      {report.lastIndex}"
  print s!"valid bytes:     {report.validBytes}"
  print s!"corrupt frames:  {report.recordsCorrupted}"
  print s!"needs truncate:  {report.wasTruncated}"

def printStats (handle : Handle) : Script Unit := do
  print s!"last index:      {handle.lastIndex}"
  print s!"write offset:    {handle.writeOffset}"
  print s!"recovered:       {handle.report.recordsRecovered}"
  print s!"truncated:       {handle.report.wasTruncated}"
  print s!"corruptions:     {handle.counters.corruptions}"

/-! ## The demonstration -/

def appendNarrated (log : OpenLog) : List String → Script OpenLog
  | [] => pure log
  | item :: items => do
      let (index, log) ← append log (Utf8.encode item) true
      print s!"Appended Entry {index}: {item}"
      appendNarrated log items

def printPayloads (payloads : List Bytes) : Script Unit :=
  (payloads.zipIdx 1).forM fun (payload, index) => print ("  " ++ shownRecord index payload)

def narratedLife (path : String) (settings : Settings) : Script Unit := do
  print "--- Phase 1: Creating WAL and Writing Data ---"
  print s!"File: {path}"
  print ""
  let log ← openLog path settings
  let log ← appendNarrated log
    ["Set user_1=active", "Update user_1_score=100", "Delete session_99"]
  print ""
  print s!"Current Last Index: {log.handle.lastIndex}"
  close log
  print ""
  print "--- Phase 2: Simulating Restart & Recovery ---"
  let log ← openLog path settings
  let (recovered, log) ← request log Handle.readAll
  print s!"Recovered {recovered.length} entries from disk:"
  printPayloads recovered
  print ""
  print "--- Phase 3: Truncating from Index 2 ---"
  let (_, log) ← request log fun handle file => handle.truncateFrom none file 2
  print s!"New Last Index after truncation: {log.handle.lastIndex}"
  print "Final Log Content:"
  let (kept, log) ← request log Handle.readAll
  printPayloads kept
  close log

def throwawayDirectory : String := "<temp>"

def demoFile : String := "demo.wal"

/-- The demonstration removes its own file and nothing else, and takes no file that is
there already. -/
def demo (settings : Settings) : Option String → Script Unit
  | none => onBlankDisk (narratedLife (Path.join throwawayDirectory demoFile) settings)
  | some directory => do
      let path := Path.join directory demoFile
      inspect fun disk =>
        match disk.lookup path with
        | .ok _ => .error (.io (.occupied path))
        | .error _ => .ok ()
      thenRemoving path (narratedLife path settings)

end Script

/-! ## All commands -/

def Command.script (settings : Settings) : Command → Script Unit
  | .demo directory => Script.demo settings directory
  | .append path items synced => do
      let log ← Script.openLog path settings
      let log ← Script.appendItems log synced items
      Script.close log
  | .get path index => do
      let log ← Script.openLog path settings
      let (payload, log) ← Script.request log fun handle file => handle.get file index.toNat
      Script.print (shownRecord index.toNat payload)
      Script.close log
  | .dump path => do
      let items ← Script.inspect fun disk => disk.readStream path settings.maxPayloadSize
      Script.printItems items
  | .truncate path index => do
      let log ← Script.openLog path settings
      let (_, log) ← Script.request log fun handle file => handle.truncateFrom none file index.toNat
      Script.print s!"last index is now {log.handle.lastIndex}"
      Script.close log
  | .verify path => do
      let report ← Script.inspect fun disk => disk.verify path settings
      Script.printReport report
  | .stats path => do
      let log ← Script.openLog path settings
      Script.printStats log.handle
      Script.close log

/-- The path of the log a command works on, unless it is a throwaway log. -/
def Command.path? : Command → Option String
  | .demo directory => directory.map (Path.join · Script.demoFile)
  | .append path .. | .get path _ | .dump path | .truncate path _ | .verify path
  | .stats path => some path

structure Shown where
  text : String
  exitCode : UInt8
  deriving DecidableEq, Repr

namespace Shown

def ofLines (lines : List String) (exitCode : UInt8) : Shown :=
  ⟨String.join (lines.map (· ++ "\n")), exitCode⟩

/-- The line that says why a command failed. A path in it may be any text. -/
def failureLine (failure : Failure) : String := s!"ERROR {Text.visible failure.message}"

def ofExecution (execution : Execution Unit) : Shown :=
  match execution.answer with
  | .ok () => ofLines execution.printed 0
  | .error failure => ofLines (execution.printed ++ [failureLine failure]) 1

def version : String := "0.1.0"

/-- Usage and help are no output of the program. -/
def ofEnding : Ending → Shown
  | .misuse => ofLines [] 2
  | .version => ofLines [s!"raftwal-cli {version}"] 0
  | .help => ofLines [] 0

end Shown

def Invocation.run (invocation : Invocation) (disk : Disk) : Shown × Disk :=
  let execution := invocation.command.script invocation.limits.settings disk
  (.ofExecution execution, execution.disk)

def Disk.runProgram (disk : Disk) (arguments : List String) : Shown × Disk :=
  match Invocation.ofArguments arguments with
  | .error ending => (.ofEnding ending, disk)
  | .ok invocation => invocation.run disk

end FrameLog
