import FrameLog.Proofs.ScannersAgree

/-!
# Files that were repaired once

Repair leaves a file that every reader takes for a whole log: what was kept of it reads the
same without the octets that were cut off. From then on opening the log and closing it
again, under either policy and as often as one likes, changes nothing.
-/

set_option autoImplicit false

namespace FrameLog

/-- The report on a file of this size that is a log of that many records and nothing else. -/
def Report.clean (records size : Nat) : Report where
  recordsRecovered := records
  lastIndex := records
  validBytes := size

theorem Report.intact_eq_clean (records : List Record) :
    intact records = clean records.length (logFile records).length := by
  rw [length_logFile]
  rfl

namespace Disk

/-- The path leads to a file with these records in it and nothing behind them. -/
structure Holds (disk : Disk) (path : String) (number : FileNumber) (limit : UInt32)
    (records : List Record) : Prop where
  finds : disk.Finds path number
  contents : disk.contents[number]? = some (logFile records)
  acceptable : ∀ record ∈ records, record.Acceptable limit

section

variable {disk : Disk} {path : String} {number : FileNumber} {limit : UInt32}
  {records : List Record}

theorem Holds.read (holds : disk.Holds path number limit records) :
    disk.read number = logFile records :=
  read_of_getElem? holds.contents

theorem Holds.openLog (holds : disk.Holds path number limit records) {settings : Settings}
    (coherent : settings.Coherent) (same : settings.maxPayloadSize = limit)
    (ceiling : Option Nat) :
    (disk.openLog path settings ceiling).answer =
        .ok ⟨.restored path settings records (.intact records), number⟩ ∧
      (disk.openLog path settings ceiling).disk = disk := by
  subst same
  obtain ⟨opened, kept⟩ := Handle.attach_whole path ceiling holds.acceptable
  rw [openLog_of_held coherent holds.finds.prepareFile holds.contents, opened, kept,
    store_of_getElem? holds.contents]
  exact ⟨rfl, rfl⟩

theorem Holds.verify (holds : disk.Holds path number limit records) {settings : Settings}
    (same : settings.maxPayloadSize = limit) :
    disk.verify path settings = .ok (.intact records) := by
  subst same
  have checked := verify_logFile_append holds.acceptable (readFrame_eq_absent_iff.mpr (Eq.refl []))
  rw [List.append_nil] at checked
  rw [verify_of_held holds.finds.lookupFile holds.contents, checked]
  rfl

theorem Holds.readStream (holds : disk.Holds path number limit records) :
    disk.readStream path limit = .ok ((numbered 1 records).map .ok) := by
  have nothing : readFrame limit [] = .error .absent := readFrame_eq_absent_iff.mpr (Eq.refl [])
  have drains := Stream.drains_logFile_append holds.acceptable nothing
  have started : Cursor.start limit (logFile records ++ []) = .ok ⟨FileHeader.size, 1, limit⟩ :=
    Cursor.start_logFile_append limit
  rw [List.append_nil] at drains started
  have beginning : disk.startCursor path limit = .ok (⟨FileHeader.size, 1, limit⟩, number) := by
    rw [startCursor_of_held holds.finds.lookupFile holds.contents, started]
    rfl
  have streamed := readStream_of_drains holds.contents beginning drains
  rwa [show Fault.absent.ending _ = none from rfl, Option.toList_none, List.map_nil,
    List.append_nil] at streamed

end

/-! ## Opening and closing -/

def visit (disk : Disk) (path : String) (settings : Settings) (ceiling : Option Nat) : Disk :=
  let opening := disk.openLog path settings ceiling
  match opening.answer with
  | .error _ => opening.disk
  | .ok log => (log.apply opening.disk Handle.close).disk

def visits (disk : Disk) (path : String) (visitors : List (Settings × Option Nat)) : Disk :=
  visitors.foldl (fun disk visitor => disk.visit path visitor.1 visitor.2) disk

/-- Whoever goes through the file under this limit finds these records at these positions
and nothing to object to, and leaves the disk alone. -/
structure FoundClean (disk : Disk) (path : String) (number : FileNumber) (limit : UInt32)
    (positions : Positions) (records : List Record) : Prop where
  readBack : positions.offsets.map (readFrameAt limit (disk.read number)) = records.map .ok
  opened : ∀ (settings : Settings) ceiling, settings.Coherent → settings.maxPayloadSize = limit →
    let opening := disk.openLog path settings ceiling
    opening.disk = disk ∧ ∃ log, opening.answer = .ok log ∧ log.file = number ∧
      log.handle.positions = positions ∧
      log.handle.report = .clean records.length (disk.read number).length ∧
      (log.apply disk Handle.readAll).answer = .ok (records.map Record.payload)
  verified : ∀ settings : Settings, settings.maxPayloadSize = limit →
    disk.verify path settings = .ok (.clean records.length (disk.read number).length)
  streamed : disk.readStream path limit = .ok ((numbered 1 records).map .ok)

section

variable {disk prepared : Disk} {path : String} {number : FileNumber} {limit : UInt32}
  {records : List Record}

theorem visit_of_opened {settings : Settings} {ceiling : Option Nat} {log : OpenLog}
    (opened : (disk.openLog path settings ceiling).answer = .ok log) :
    disk.visit path settings ceiling = (disk.openLog path settings ceiling).disk := by
  simp only [visit, opened, OpenLog.apply, Handle.close_file, store_read]

theorem Holds.visits (holds : disk.Holds path number limit records)
    {visitors : List (Settings × Option Nat)}
    (same : ∀ visitor ∈ visitors, visitor.1.Coherent ∧ visitor.1.maxPayloadSize = limit) :
    disk.visits path visitors = disk := by
  induction visitors with
  | nil => rfl
  | cons visitor visitors ih =>
      obtain ⟨coherent, limited⟩ := same visitor List.mem_cons_self
      obtain ⟨opened, kept⟩ := holds.openLog coherent limited visitor.2
      have later := ih fun other member => same other (List.mem_cons_of_mem _ member)
      rw [Disk.visits, List.foldl_cons, visit_of_opened opened, kept]
      exact later

theorem Holds.foundClean (holds : disk.Holds path number limit records) :
    disk.FoundClean path number limit ⟨frameOffsets FileHeader.size records⟩ records where
  readBack := by
    rw [holds.read]
    exact map_readFrameAt_frameOffsets holds.acceptable (drop_size_whole_logFile records)
  opened := by
    intro settings ceiling coherent same opening
    obtain ⟨opened, kept⟩ := holds.openLog coherent same ceiling
    subst same
    have mirrors := Handle.mirrors_restored_whole path (.intact records) holds.acceptable
    refine ⟨kept, _, opened, rfl, rfl, ?_, ?_⟩
    · rw [holds.read]
      exact Report.intact_eq_clean records
    · rw [OpenLog.apply, holds.read, mirrors.readAll_eq rfl]
  verified := by
    intro settings same
    rw [holds.verify same, holds.read, Report.intact_eq_clean]
  streamed := holds.readStream

theorem coherent_of_openLog {settings : Settings} {ceiling : Option Nat} {log : OpenLog}
    (opened : (disk.openLog path settings ceiling).answer = .ok log) : settings.Coherent := by
  by_cases coherent : settings.Coherent
  · exact coherent
  · simp only [Disk.openLog, Settings.check, if_neg coherent] at opened
    cases opened

/-- What repair leaves is a file of records with nothing behind them. -/
theorem holds_of_repair {file : Bytes} {settings : Settings} {ceiling : Option Nat}
    {log : OpenLog} (found : disk.prepareFile path = (.ok number, prepared))
    (held : prepared.contents[number]? = some file) (repairing : settings.tailPolicy = .truncate)
    (opened : (disk.openLog path settings ceiling).answer = .ok log) :
    ∃ records, log.handle.positions = ⟨frameOffsets FileHeader.size records⟩ ∧
      (disk.openLog path settings ceiling).disk.Holds path number settings.maxPayloadSize
        records := by
  have opens := opensAs (coherent_of_openLog opened) found held ceiling
  obtain ⟨recovered, answered, rfl⟩ := opens.eq_ok opened
  obtain ⟨records, dangling, report, rfl, after, acceptable, _, policy⟩ := recover_eq_ok answered
  have nothing : dangling = [] := by
    rcases policy with gone | strict
    · exact gone
    · rw [repairing] at strict
      cases strict
  obtain ⟨standing, _⟩ := List.getElem?_eq_some_iff.mp held
  rw [nothing, List.append_nil] at after
  rw [opens.stored, after]
  exact ⟨records, rfl, (finds_of_prepareFile found).store number _,
    List.getElem?_set_self standing, acceptable⟩

end

/-- Once a log was opened for repair and closed, opening and closing it with the same limit
changes nothing, however often and under whichever policy. All that time every reader finds
the same records at the same positions, and a clean end behind them. -/
theorem repair_settles_file (disk prepared : Disk) (path : String) (number : FileNumber)
    (file : Bytes) (settings : Settings) (ceiling : Option Nat) (log : OpenLog)
    (found : disk.prepareFile path = (.ok number, prepared))
    (held : prepared.contents[number]? = some file)
    (repairing : settings.tailPolicy = .truncate)
    (opened : (disk.openLog path settings ceiling).answer = .ok log) :
    let settled := disk.visit path settings ceiling
    settled = (disk.openLog path settings ceiling).disk ∧
    ∃ records, ∀ visitors : List (Settings × Option Nat),
      (∀ visitor ∈ visitors,
        visitor.1.Coherent ∧ visitor.1.maxPayloadSize = settings.maxPayloadSize) →
      settled.visits path visitors = settled ∧
        (settled.visits path visitors).FoundClean path number settings.maxPayloadSize
          log.handle.positions records := by
  intro settled
  obtain ⟨records, positions, holds⟩ := holds_of_repair found held repairing opened
  rw [← visit_of_opened opened] at holds
  refine ⟨visit_of_opened opened, records, ?_⟩
  intro visitors same
  have unchanged : settled.visits path visitors = settled := holds.visits same
  rw [unchanged, positions]
  exact ⟨rfl, holds.foundClean⟩

/-- Behind the only record stands one whose payload breaks off. -/
theorem repair_settles_file_of_torn_record :
    let disk : Disk :=
      { names := [(["one.wal"], 0)]
        contents := [logFile [.ofPayload [1, 2]] ++ [1, 0, 0, 0, 9, 0, 0, 0, 0, 7]] }
    let settled := disk.visit "one.wal" {} none
    ∃ positions records,
      (settled.visits "one.wal" [({ tailPolicy := .strict }, none), ({}, some 0)]).FoundClean
        "one.wal" 0 ({} : Settings).maxPayloadSize positions records := by
  intro disk settled
  have coherent : ({} : Settings).Coherent := by decide
  have acceptable : ∀ record ∈ ([[1, 2]] : List Bytes).map Record.ofPayload,
      record.Acceptable ({} : Settings).maxPayloadSize :=
    Record.acceptable_map_ofPayload (by decide)
  have stops : readFrame ({} : Settings).maxPayloadSize [1, 0, 0, 0, 9, 0, 0, 0, 0, 7] =
      .error (.torn 9 1) := rfl
  have prepared : disk.prepareFile "one.wal" = (.ok 0, disk) := rfl
  obtain ⟨opened, _⟩ := openLog_truncate coherent prepared rfl none rfl acceptable stops
  obtain ⟨_, records, settles⟩ :=
    repair_settles_file disk disk "one.wal" 0 _ {} none _ prepared rfl rfl opened
  exact ⟨_, records, (settles _ (by decide)).2⟩

end Disk

end FrameLog
