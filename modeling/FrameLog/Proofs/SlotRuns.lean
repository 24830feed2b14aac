import FrameLog.Proofs.FoundFile
import FrameLog.Proofs.PlainRefinement
import FrameLog.Workspace

/-!
# One log, opened again and again

A log that is opened at a path where there is no file, or an empty one, and then gets
requests and is dropped and opened again in any order, each under the ceiling of its
moment, with nothing else going on. All its answers are those of a plain list of payloads.

The invariant of such a run has three parts: the handle in the slot stands for the plain
log, the path still leads to its file, and that file is there.
-/

set_option autoImplicit false

namespace FrameLog

/-- What happens to the one log: a request, or being dropped and opened again. -/
inductive Turn where
  | request (ceiling : Option Nat) (request : Request)
  | reopen (ceiling : Option Nat)
  deriving DecidableEq, Repr

namespace Workspace

/-- One turn of the log in this slot, at this path and with these settings. Opening a slot
drops what was in it. -/
def takeTurn (slot : Nat) (path : String) (settings : Settings) (workspace : Workspace) :
    Turn → Outcome
  | .request ceiling request =>
      (workspace.serve (.setCeiling ceiling)).workspace.serve (.request slot request)
  | .reopen ceiling =>
      (workspace.serve (.setCeiling ceiling)).workspace.serve (.openLog slot path settings)

def takeTurns (slot : Nat) (path : String) (settings : Settings) (workspace : Workspace) :
    List Turn → List (Except Refusal Answer) × Workspace
  | [] => ([], workspace)
  | turn :: later =>
      let outcome := workspace.takeTurn slot path settings turn
      let run := outcome.workspace.takeTurns slot path settings later
      (outcome.answer :: run.1, run.2)

end Workspace

namespace PlainLog

def takeTurn (limit : UInt32) (plain : PlainLog) :
    Turn → Except Refusal Answer × PlainLog
  | .request ceiling request =>
      let (answer, later) := plain.serve limit ceiling request
      ((answer.map .reply).mapError .failure, later)
  | .reopen _ => (.ok (.report plain.report), plain.reopened)

def takeTurns (limit : UInt32) (plain : PlainLog) :
    List Turn → List (Except Refusal Answer) × PlainLog
  | [] => ([], plain)
  | turn :: later =>
      let (answer, next) := plain.takeTurn limit turn
      let (answers, last) := next.takeTurns limit later
      (answer :: answers, last)

end PlainLog

namespace Workspace

/-- The log in the slot stands for the plain log, and its path still leads to its file. -/
structure HasLog (workspace : Workspace) (slot : Nat) (path : String) (settings : Settings)
    (log : OpenLog) (plain : PlainLog) : Prop where
  held : workspace.logs.get? slot = some log
  settings : log.handle.settings = settings
  standsFor : log.handle.StandsFor (workspace.disk.read log.file) plain
  finds : workspace.disk.Finds path log.file
  standing : log.file < workspace.disk.contents.length

variable {workspace : Workspace} {slot : Nat} {path : String} {settings : Settings}
  {log : OpenLog} {plain : PlainLog}

theorem dropLog_disk (workspace : Workspace) (slot : Nat) :
    (workspace.dropLog slot).workspace.disk = workspace.disk := by
  unfold dropLog
  cases workspace.logs.get? slot with
  | none => rfl
  | some log =>
      change workspace.disk.store log.file (log.handle.close _).file = workspace.disk
      rw [Handle.close_file, Disk.store_read]

theorem dropLog_ceiling (workspace : Workspace) (slot : Nat) :
    (workspace.dropLog slot).workspace.ceiling = workspace.ceiling := by
  unfold dropLog
  cases workspace.logs.get? slot with
  | none => rfl
  | some log => rfl

theorem hasLog_openLog (workspace : Workspace) (slot : Nat) {number : FileNumber}
    {prepared : Disk} {handle : Handle}
    (coherent : settings.Coherent)
    (found : workspace.disk.prepareFile path = (.ok number, prepared))
    (standing : number < prepared.contents.length)
    (opened : (Handle.attach path settings workspace.ceiling (prepared.read number)).answer =
      .ok handle)
    (sameSettings : handle.settings = settings)
    (stands : handle.StandsFor
      (Handle.attach path settings workspace.ceiling (prepared.read number)).file plain) :
    (workspace.openLog slot path settings).answer = .ok (.report handle.report) ∧
      (workspace.openLog slot path settings).workspace.HasLog slot path settings
        ⟨handle, number⟩ plain := by
  have opening := Disk.openLog_of_prepareFile coherent found workspace.ceiling
  simp only [opened, Except.map] at opening
  unfold openLog
  simp only [dropLog_disk, dropLog_ceiling, opening]
  refine ⟨trivial, ?_, sameSettings, ?_, ?_, ?_⟩
  · exact (Slots.get?_put ..).trans (if_pos rfl)
  · change handle.StandsFor (Disk.read _ number) plain
    rw [Disk.read_store standing]
    exact stands
  · exact (Disk.finds_of_prepareFile found).store _ _
  · change number < (prepared.contents.set _ _).length
    rw [List.length_set]
    exact standing

/-! ## One turn -/

theorem serve_ceilingFor (limit : UInt32) (plain : PlainLog) (workspace : Workspace)
    (request : Request) :
    plain.serve limit (workspace.ceilingFor request) request =
      plain.serve limit workspace.ceiling request := by
  rcases plain with ⟨payloads, closed⟩
  cases request with
  | append | appendAndSync => rfl
  | sync | truncateFrom | get | readAll | close =>
      cases closed with
      | false | true => rfl

theorem HasLog.request (has : workspace.HasLog slot path settings log plain)
    (ceiling : Option Nat) (request : Request) :
    (workspace.takeTurn slot path settings (.request ceiling request)).answer =
        (plain.takeTurn settings.maxPayloadSize (.request ceiling request)).1 ∧
      ∃ handle, (workspace.takeTurn slot path settings (.request ceiling request)).workspace.HasLog
        slot path settings { log with handle }
        (plain.takeTurn settings.maxPayloadSize (.request ceiling request)).2 := by
  obtain ⟨answer, stands, sameSettings⟩ :=
    has.standsFor.serve (congrArg Settings.maxPayloadSize has.settings)
      (ceilingFor { workspace with ceiling } request) request
  rw [serve_ceilingFor] at answer stands
  simp only [takeTurn, Workspace.serve, Outcome.answered, Workspace.request, has.held, OpenLog.serve,
    OpenLog.apply, PlainLog.takeTurn]
  refine ⟨by rw [answer], _, ?_, sameSettings.trans has.settings, ?_, ?_, ?_⟩
  · exact (Slots.get?_put ..).trans (if_pos rfl)
  · rw [Disk.read_store has.standing]
    exact stands
  · exact has.finds.store _ _
  · change log.file < (workspace.disk.contents.set _ _).length
    rw [List.length_set]
    exact has.standing

theorem HasLog.reopen (has : workspace.HasLog slot path settings log plain)
    (coherent : settings.Coherent) (ceiling : Option Nat) :
    (workspace.takeTurn slot path settings (.reopen ceiling)).answer =
        .ok (.report plain.report) ∧
      ∃ handle, (workspace.takeTurn slot path settings (.reopen ceiling)).workspace.HasLog
        slot path settings { log with handle } plain.reopened := by
  obtain ⟨handle, opened, stands, sameSettings, report⟩ := has.standsFor.attach path ceiling
  rw [has.settings] at opened stands sameSettings
  obtain ⟨answer, later⟩ := hasLog_openLog { workspace with ceiling } slot coherent
    has.finds.prepareFile has.standing opened sameSettings stands
  rw [report] at answer
  exact ⟨answer, handle, later⟩

theorem HasLog.takeTurn (has : workspace.HasLog slot path settings log plain)
    (coherent : settings.Coherent) (turn : Turn) :
    (workspace.takeTurn slot path settings turn).answer =
        (plain.takeTurn settings.maxPayloadSize turn).1 ∧
      ∃ handle, (workspace.takeTurn slot path settings turn).workspace.HasLog slot path settings
        { log with handle } (plain.takeTurn settings.maxPayloadSize turn).2 := by
  cases turn with
  | request ceiling request => exact has.request ceiling request
  | reopen ceiling => exact has.reopen coherent ceiling

/-! ## Whole runs -/

theorem HasLog.takeTurns (has : workspace.HasLog slot path settings log plain)
    (coherent : settings.Coherent) (turns : List Turn) :
    (workspace.takeTurns slot path settings turns).1 =
        (plain.takeTurns settings.maxPayloadSize turns).1 ∧
      ∃ handle, (workspace.takeTurns slot path settings turns).2.HasLog slot path settings
        { log with handle } (plain.takeTurns settings.maxPayloadSize turns).2 := by
  induction turns generalizing workspace log plain with
  | nil => exact ⟨rfl, log.handle, has⟩
  | cons turn turns ih =>
      obtain ⟨answer, handle, next⟩ := has.takeTurn coherent turn
      obtain ⟨answers, last, later⟩ := ih next
      refine ⟨?_, last, later⟩
      rw [Workspace.takeTurns, PlainLog.takeTurns, answer, answers]

/-- Opened where there was no file or an empty one, a log is a plain list of payloads to
everyone who uses it, whatever is asked of it and however often it is opened again. -/
theorem takeTurns_refines_plainLog (workspace : Workspace) (slot : Nat) (path : String)
    (settings : Settings) (number : FileNumber) (prepared : Disk)
    (coherent : settings.Coherent)
    (found : workspace.disk.prepareFile path = (.ok number, prepared))
    (empty : prepared.contents[number]? = some [])
    (permitted : PlainLog.Permits workspace.ceiling FileHeader.size) :
    let opened := workspace.serve (.openLog slot path settings)
    opened.answer = .ok (.report (PlainLog.report {})) ∧
      ∀ turns,
        let run := opened.workspace.takeTurns slot path settings turns
        let plain := PlainLog.takeTurns settings.maxPayloadSize {} turns
        run.1 = plain.1 ∧
          ∃ log, run.2.logs.get? slot = some log ∧ log.file = number ∧
            log.handle.closed = plain.2.closed ∧
            log.handle.lastIndex = plain.2.length ∧
            log.handle.length = plain.2.length ∧
            log.handle.writeOffset = plain.2.fileSize ∧
            run.2.disk.read number = logFile (plain.2.payloads.map .ofPayload) ∧
            (run.2.disk.read number).length = plain.2.fileSize := by
  intro opened
  obtain ⟨standing, nothing⟩ := List.getElem?_eq_some_iff.mp empty
  have unread : prepared.read number = [] := by
    rw [Disk.read, List.getD_eq_getElem?_getD, empty]
    rfl
  obtain ⟨handle, attached, stands, sameSettings, report⟩ :=
    Handle.attach_empty path settings permitted
  rw [← unread] at attached stands
  obtain ⟨answer, has⟩ :=
    hasLog_openLog workspace slot coherent found standing attached sameSettings stands
  rw [report] at answer
  refine ⟨answer, ?_⟩
  intro turns run plain
  obtain ⟨answers, last, later⟩ := has.takeTurns coherent turns
  have contents : run.2.disk.read number = logFile plain.2.records := later.standsFor.contents
  have ends : last.writeOffset = plain.2.fileSize := later.standsFor.writeOffset_eq
  refine ⟨answers, ⟨last, number⟩, later.held, rfl, later.standsFor.closed,
    later.standsFor.length_eq, later.standsFor.length_eq, ends, contents, ?_⟩
  rw [contents, later.standsFor.mirrors.logFile_length, ends]

/-- Neither the file nor its directory is there at first. The second append hits a ceiling,
and opening again under a ceiling finds the first. -/
theorem takeTurns_refines_plainLog_from_nothing :
    let opened := ({ disk := .emptyAt ["work"] } : Workspace).serve
      (.openLog 0 "logs/one.wal" {})
    opened.answer = .ok (.report { validBytes := 8 }) ∧
      (opened.workspace.takeTurns 0 "logs/one.wal" {}
        [.request none (.append [1]), .request (some 20) (.append [2, 3]), .reopen (some 9),
          .request none .readAll]).1 =
        [.ok (.reply (.index 1)), .error (.failure (.io .fileTooLarge)),
          .ok (.report { recordsRecovered := 1, lastIndex := 1, validBytes := 18 }),
          .ok (.reply (.payloads [[1]]))] := by
  obtain ⟨answer, runs⟩ := takeTurns_refines_plainLog { disk := .emptyAt ["work"] } 0
    "logs/one.wal" {} 0 _ (by decide) rfl rfl (by decide)
  obtain ⟨answers, _⟩ := runs
    [.request none (.append [1]), .request (some 20) (.append [2, 3]), .reopen (some 9),
      .request none .readAll]
  exact ⟨answer, answers⟩

end Workspace

end FrameLog
