import FrameLog.Proofs.Appending
import FrameLog.Proofs.Recovery

/-!
# Runs that nothing disturbs

Runs of requests alone, each under the ceiling of its moment, with no change to the file
from outside. Every request keeps a handle a mirror of its file, so every run does, and a
new scan of the file finds at any time what the handle already knows.

Octets behind the log survive only as long as nothing reaches the file: no append that was
written or began to be written, and no truncation.
-/

set_option autoImplicit false

namespace FrameLog

open PlainLog (Permits)

def Handle.runAlone (handle : Handle) (file : Bytes) (steps : List (Option Nat × Request)) :
    Run :=
  handle.run file (steps.map fun step => .request step.1 step.2)

/-- Whether a request that was answered so has written to the file or cut it. -/
def Request.reachesFile : Request → Except Failure Reply → Bool
  | .append _, .ok _ | .append _, .error (.io _) => true
  | .appendAndSync _, .ok _ | .appendAndSync _, .error (.io _) => true
  | .truncateFrom _, .ok _ => true
  | _, _ => false

def reachedFile (steps : List (Option Nat × Request)) (answers : List (Except Failure Reply)) :
    Bool :=
  (steps.zip answers).any fun served => served.1.2.reachesFile served.2

def Request.leaves (records : List Record) : Request → Except Failure Reply → List Record
  | .append payload, .ok _ | .appendAndSync payload, .ok _ => records ++ [.ofPayload payload]
  | .truncateFrom index, .ok _ => records.take (index - 1)
  | _, _ => records

theorem Request.leaves_error (records : List Record) (request : Request) (failure : Failure) :
    request.leaves records (.error failure) = records := by
  cases request <;> rfl

theorem Request.leaves_of_payload? (records : List Record) {request : Request} {payload : Bytes}
    (asks : request.payload? = some payload) (reply : Reply) :
    request.leaves records (.ok reply) = records ++ [.ofPayload payload] := by
  cases request with
  | append | appendAndSync =>
      cases asks
      rfl
  | sync | truncateFrom | get | readAll | close => cases asks

/-- The records of a log after requests that were answered so: those it had, less what was
truncated, and what was appended since. -/
def acknowledged (records : List Record) (steps : List (Option Nat × Request))
    (answers : List (Except Failure Reply)) : List Record :=
  (steps.zip answers).foldl (fun records served => served.1.2.leaves records served.2) records

namespace Handle

variable {handle : Handle} {file dangling : Bytes} {records : List Record}

theorem runAlone_cons (handle : Handle) (file : Bytes) (ceiling : Option Nat)
    (request : Request) (steps : List (Option Nat × Request)) :
    handle.runAlone file ((ceiling, request) :: steps) =
      ((handle.serve ceiling file request).handle.runAlone
        (handle.serve ceiling file request).file steps).after
          (handle.serve ceiling file request) := rfl

/-! ## One request -/

/-- What a request leaves of the invariant: the records that its answer speaks of, and
behind them either nothing or what stood there before, the latter only if the file was not
reached. -/
def LeavesRecords (handle : Handle) (records : List Record) (dangling : Bytes) (request : Request)
    (served : Served Reply) : Prop :=
  served.handle.settings = handle.settings ∧
    ∃ behind, served.handle.Mirrors served.file (request.leaves records served.answer) behind ∧
      (behind = [] ∨ behind = dangling ∧ request.reachesFile served.answer = false)

theorem Mirrors.leavesRecords_refused (mirrors : handle.Mirrors file records dangling)
    {request : Request} {failure : Failure}
    (untouched : request.reachesFile (.error failure) = false) :
    handle.LeavesRecords records dangling request (.refused handle file failure) := by
  refine ⟨rfl, dangling, ?_, .inr ⟨rfl, untouched⟩⟩
  change handle.Mirrors file (request.leaves records (.error failure)) dangling
  rwa [Request.leaves_error]

theorem Mirrors.leavesRecords_of_closed (mirrors : handle.Mirrors file records dangling)
    (closed : handle.closed = true) (ceiling : Option Nat) (request : Request) :
    handle.LeavesRecords records dangling request (handle.serve ceiling file request) := by
  by_cases closing : request = .close
  · subst closing
    rw [serve_close_of_closed closed]
    exact ⟨rfl, dangling, mirrors, .inr ⟨rfl, rfl⟩⟩
  · rw [serve_of_closed closed closing]
    exact mirrors.leavesRecords_refused (by cases request <;> rfl)

theorem Appends.leavesRecords {ceiling : Option Nat} {payload : Bytes} {served : Served Reply}
    (appends : handle.Appends file records ceiling payload served)
    (mirrors : handle.Mirrors file records dangling) {request : Request}
    (asks : request.payload? = some payload) :
    handle.LeavesRecords records dangling request served := by
  cases appends with
  | tooLarge => exact mirrors.leavesRecords_refused (by cases request <;> rfl)
  | stopped =>
      refine ⟨rfl, [], ?_, .inl rfl⟩
      rw [Request.leaves_error]
      exact mirrors.cutBack
  | written counters within =>
      refine ⟨rfl, [], ?_, .inl rfl⟩
      rw [Request.leaves_of_payload? records asks]
      exact (mirrors.appended within).recounted _ counters

theorem Mirrors.serve_truncateFrom (mirrors : handle.Mirrors file records dangling)
    (opened : handle.closed = false) (ceiling : Option Nat) (index : Nat) :
    handle.LeavesRecords records dangling (.truncateFrom index)
      (handle.serve ceiling file (.truncateFrom index)) := by
  rw [serve]
  by_cases present : 1 ≤ index ∧ index ≤ records.length
  · obtain ⟨answer, after, settings, _, cut⟩ :=
      mirrors.truncateFrom opened ceiling present.1 present.2
    rw [← after] at cut
    refine ⟨settings, [], ?_, .inl rfl⟩
    rw [Served.map, answer]
    exact cut
  · rw [mirrors.truncateFrom_of_missing opened ceiling present]
    exact mirrors.leavesRecords_refused rfl

theorem Mirrors.serve_get (mirrors : handle.Mirrors file records dangling)
    (opened : handle.closed = false) (ceiling : Option Nat) (index : Nat) :
    handle.LeavesRecords records dangling (.get index)
      (handle.serve ceiling file (.get index)) := by
  rw [serve]
  by_cases present : 1 ≤ index ∧ index ≤ records.length
  · obtain ⟨record, found⟩ : ∃ record, records[index - 1]? = some record :=
      ⟨_, List.getElem?_eq_getElem (by omega)⟩
    rw [mirrors.get_of_getElem? opened present.1 found]
    exact ⟨rfl, dangling, mirrors, .inr ⟨rfl, rfl⟩⟩
  · rw [mirrors.get_of_missing opened present]
    exact mirrors.leavesRecords_refused rfl

theorem Mirrors.leavesRecords (mirrors : handle.Mirrors file records dangling)
    (ceiling : Option Nat) (request : Request) :
    handle.LeavesRecords records dangling request (handle.serve ceiling file request) := by
  cases closed : handle.closed with
  | true => exact mirrors.leavesRecords_of_closed closed ceiling request
  | false =>
      cases request with
      | append | appendAndSync =>
          exact (mirrors.appends closed ceiling rfl).leavesRecords mirrors rfl
      | truncateFrom index => exact mirrors.serve_truncateFrom closed ceiling index
      | get index => exact mirrors.serve_get closed ceiling index
      | sync =>
          rw [serve_sync_of_opened closed]
          exact ⟨rfl, dangling, mirrors.recounted _ _, .inr ⟨rfl, rfl⟩⟩
      | readAll =>
          rw [Handle.serve, mirrors.readAll_eq closed]
          exact ⟨rfl, dangling, mirrors, .inr ⟨rfl, rfl⟩⟩
      | close =>
          rw [serve_close_of_opened closed]
          exact ⟨rfl, dangling, mirrors.recounted _ _, .inr ⟨rfl, rfl⟩⟩

/-! ## Whole runs -/

theorem Mirrors.runAlone_acknowledged (mirrors : handle.Mirrors file records dangling)
    (steps : List (Option Nat × Request)) :
    let run := handle.runAlone file steps
    run.handle.settings = handle.settings ∧
      ∃ behind,
        run.handle.Mirrors run.file (acknowledged records steps run.answers) behind ∧
        (behind = [] ∨ behind = dangling ∧ reachedFile steps run.answers = false) := by
  induction steps generalizing handle file records dangling with
  | nil => exact ⟨rfl, dangling, mirrors, .inr ⟨rfl, rfl⟩⟩
  | cons step steps ih =>
      rcases step with ⟨ceiling, request⟩
      obtain ⟨settings, left, served, reached⟩ := mirrors.leavesRecords ceiling request
      obtain ⟨sameSettings, behind, mirrored, reachedLater⟩ := ih served
      refine ⟨sameSettings.trans settings, behind, mirrored, ?_⟩
      rcases reachedLater with gone | ⟨rfl, untouchedLater⟩
      · exact .inl gone
      · rcases reached with gone | ⟨rfl, untouched⟩
        · exact .inl gone
        · refine .inr ⟨rfl, ?_⟩
          rw [reachedFile] at untouchedLater ⊢
          simp only [runAlone_cons, Run.after, List.zip_cons_cons, List.any_cons, untouched,
            untouchedLater, Bool.or_self]

theorem Mirrors.runAlone (mirrors : handle.Mirrors file records dangling)
    (steps : List (Option Nat × Request)) :
    (handle.runAlone file steps).handle.settings = handle.settings ∧
      ∃ later behind,
        (handle.runAlone file steps).handle.Mirrors (handle.runAlone file steps).file later
          behind ∧
        (behind = [] ∨
          behind = dangling ∧ reachedFile steps (handle.runAlone file steps).answers = false) := by
  obtain ⟨settings, left⟩ := mirrors.runAlone_acknowledged steps
  exact ⟨settings, _, left⟩

end Handle

/-- Whatever a handle was opened on and whatever was requested since, if its file is now a
whole log then it mirrors that log. -/
theorem Handle.mirrors_runAlone {path : String} {settings : Settings} {ceiling : Option Nat}
    {found : Bytes} {handle : Handle} {steps : List (Option Nat × Request)}
    {records : List Record}
    (acceptable : ∀ record ∈ records, record.Acceptable settings.maxPayloadSize)
    (opened : (Handle.attach path settings ceiling found).answer = .ok handle)
    (whole : (handle.runAlone (Handle.attach path settings ceiling found).file steps).file =
      logFile records) :
    let run := handle.runAlone (Handle.attach path settings ceiling found).file steps
    run.handle.settings = settings ∧ run.handle.Mirrors (logFile records) records [] := by
  intro run
  obtain ⟨openedWith, _, _, _, attached, _⟩ := Handle.attach_eq_ok opened
  obtain ⟨keptSettings, _, _, mirrored, _⟩ := attached.runAlone steps
  have same := keptSettings.trans openedWith
  refine ⟨same, ?_⟩
  rw [whole] at mirrored
  apply mirrored.eq_of_logFile
  rwa [same]

/-! ## Agreement with a new scan -/

/-- What a handle knows is what a scan of its file finds. The sound frames lie one behind
the other from the header to the write offset, and less than a frame header follows. -/
structure Handle.AgreesWithScan (handle : Handle) (file : Bytes) (scanned : Scan) : Prop where
  offsets : scanned.offsets = handle.positions.offsets
  count : scanned.records.length = handle.length
  ends : scanned.soundEnd = handle.writeOffset
  tiled : file.take handle.writeOffset = logFile scanned.records
  verified : ∀ record ∈ scanned.records, record.Acceptable handle.settings.maxPayloadSize
  readBack : handle.positions.offsets.map (readFrameAt handle.settings.maxPayloadSize file) =
    scanned.records.map .ok
  nextIndex : handle.nextIndex = handle.length + 1
  reaches : handle.writeOffset ≤ file.length
  dangling : file.length ≤ handle.writeOffset + 8

theorem Handle.Mirrors.length_file {handle : Handle} {file dangling : Bytes}
    {records : List Record} (mirrors : handle.Mirrors file records dangling) :
    file.length = handle.writeOffset + dangling.length := by
  rw [mirrors.contents, List.length_append, mirrors.logFile_length]

theorem Handle.Mirrors.agreesWithScan {handle : Handle} {file dangling : Bytes}
    {records : List Record} (mirrors : handle.Mirrors file records dangling) :
    handle.AgreesWithScan file (scanFile handle.settings.maxPayloadSize file) := by
  obtain ⟨fault, scanned, _⟩ := mirrors.scan_eq
  have length := mirrors.length_file
  have short := mirrors.short
  rw [scanned]
  exact {
    offsets := mirrors.offsets.symm
    count := mirrors.length_eq.symm
    ends := mirrors.writeOffset.symm
    tiled := mirrors.take_writeOffset
    verified := mirrors.acceptable
    readBack := mirrors.map_readFrameAt
    nextIndex := by rw [mirrors.nextIndex, mirrors.length_eq]
    reaches := by omega
    dangling := by
      rw [FrameHeader.size] at short
      omega }

/-- At any time after opening, whatever the file held and whatever was requested since, the
handle agrees with a new scan of the file. Something stands behind the log only under the
strict policy, and only until a request reaches the file. -/
theorem run_agrees_with_scan (path : String) (settings : Settings)
    (openingCeiling : Option Nat) (file : Bytes) (handle : Handle)
    (opened : (Handle.attach path settings openingCeiling file).answer = .ok handle)
    (steps : List (Option Nat × Request)) :
    let run := handle.runAlone (Handle.attach path settings openingCeiling file).file steps
    run.handle.settings = settings ∧
      run.handle.AgreesWithScan run.file
        (scanFile run.handle.settings.maxPayloadSize run.file) ∧
      (run.handle.writeOffset < run.file.length →
        settings.tailPolicy = .strict ∧ reachedFile steps run.answers = false) ∧
      (reachedFile steps run.answers = true →
        run.file.length = run.handle.writeOffset) := by
  intro run
  obtain ⟨sameSettings, _, records, dangling, mirrors, policy⟩ := Handle.attach_eq_ok opened
  obtain ⟨keptSettings, later, behind, mirrored, reached⟩ := mirrors.runAlone steps
  have length : run.file.length = run.handle.writeOffset + behind.length := mirrored.length_file
  refine ⟨keptSettings.trans sameSettings, mirrored.agreesWithScan, ?_, ?_⟩
  · intro longer
    have something : behind ≠ [] := by
      rintro rfl
      rw [List.length_nil] at length
      omega
    rcases reached with gone | ⟨rfl, untouched⟩
    · exact absurd gone something
    · rcases policy with gone | strict
      · exact absurd gone something
      · exact ⟨strict, untouched⟩
  · intro touched
    rcases reached with rfl | ⟨_, untouched⟩
    · simpa using length
    · rw [touched] at untouched
      cases untouched

/-- A record of unknown kind and three octets behind it, opened under the strict policy; a
write that fails takes the octets away. -/
theorem run_agrees_with_scan_after_failed_write :
    ∃ (dangling : Bytes) (handle : Handle),
      dangling = [1, 0, 0] ∧
      (Handle.attach "log.wal" { tailPolicy := .strict } none
        (logFile [⟨7, [1, 2], frameChecksum 7 [1, 2]⟩] ++ dangling)).answer = .ok handle ∧
      (handle.runAlone (logFile [⟨7, [1, 2], frameChecksum 7 [1, 2]⟩] ++ dangling)
        [(none, .get 1), (some 20, .append [3])]).file.length =
      (handle.runAlone (logFile [⟨7, [1, 2], frameChecksum 7 [1, 2]⟩] ++ dangling)
        [(none, .get 1), (some 20, .append [3])]).handle.writeOffset := by
  have acceptable : ∀ record ∈ [(⟨7, [1, 2], frameChecksum 7 [1, 2]⟩ : Record)],
      record.Acceptable ({ tailPolicy := .strict } : Settings).maxPayloadSize := by
    intro record member
    rw [List.mem_singleton.mp member]
    exact ⟨by decide, Record.sound_of_frameChecksum 7 [1, 2]⟩
  have short : ([1, 0, 0] : Bytes).length < FrameHeader.size := by decide
  obtain ⟨opened, kept⟩ :=
    Handle.attach_strict_of_short "log.wal" none rfl acceptable short
  obtain ⟨-, -, -, whole⟩ := run_agrees_with_scan _ _ _ _ _ opened
    [(none, .get 1), (some 20, .append [3])]
  rw [kept] at whole
  exact ⟨_, _, rfl, opened, whole (by decide +kernel)⟩

end FrameLog
