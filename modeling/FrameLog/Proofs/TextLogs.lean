import FrameLog.Command.Prediction
import FrameLog.Proofs.SettledFile

/-!
# Logs of texts

A script finds a log of texts at its path, or nothing, in a directory that is there. It
opens the log, which is created if need be, asks something of it and closes it again. Each
step either yields the open log with the texts that are in it now, or it fails and leaves
the texts as they were.
-/

set_option autoImplicit false

namespace FrameLog

def textRecords (texts : List String) : List Record :=
  texts.map fun text => .ofPayload (Utf8.encode text)

namespace Disk

/-! ## Paths that lead nowhere -/

/-- The path could lead to a file, but there is nothing at its end. -/
def Vacant (disk : Disk) (text : String) : Prop :=
  ∃ path, Path.ofString? text = some path ∧ path.directoryOnly = false ∧
    ∃ place, disk.walk (disk.startOf path) path.parts = .ok place ∧ disk.nodeAt? place = none

section

variable {disk : Disk} {path : String}

theorem Vacant.lookupFile (vacant : disk.Vacant path) :
    disk.lookupFile path = .error .notFound := by
  obtain ⟨parsed, text, named, place, walked, missing⟩ := vacant
  simp only [Disk.lookupFile, lookup, locate, text, named, Bool.false_eq_true, if_false,
    List.append_nil, walked, missing, Except.map]

theorem Vacant.prepareFile (vacant : disk.Vacant path) :
    ∃ place, disk.prepareFile path = (.ok disk.contents.length, (disk.addFile place).2) := by
  obtain ⟨parsed, text, named, place, walked, missing⟩ := vacant
  have held := holdsDirectory_parent walked
  refine ⟨place, ?_⟩
  simp only [Disk.prepareFile, text, held.makeDirectories, openFile, walked, named, missing,
    Bool.false_eq_true, if_false]
  rfl

/-- Opening a path that leads nowhere leaves an empty log there. -/
theorem Vacant.openLog (vacant : disk.Vacant path) {settings : Settings}
    (coherent : settings.Coherent) :
    ∃ number,
      (disk.openLog path settings none).answer =
          .ok ⟨.restored path settings [] (.intact []), number⟩ ∧
        (disk.openLog path settings none).disk.Holds path number settings.maxPayloadSize [] := by
  obtain ⟨place, prepared⟩ := vacant.prepareFile
  have empty : (disk.addFile place).2.contents[disk.contents.length]? = some [] :=
    List.getElem?_concat_length
  obtain ⟨standing, _⟩ := List.getElem?_eq_some_iff.mp empty
  obtain ⟨opened, after⟩ := Handle.attach_nil path settings (PlainLog.permits_none _)
  have nothing : ∀ record ∈ ([] : List Record), record.Acceptable settings.maxPayloadSize := by
    intro record member
    cases member
  refine ⟨disk.contents.length, ?_⟩
  rw [openLog_of_held coherent prepared empty, opened, after]
  exact ⟨rfl, (finds_of_prepareFile prepared).store _ _, List.getElem?_set_self standing,
    nothing⟩

end

/-- What these texts say of a disk that was blank at the path: nothing has changed, or there
is a log of them now. -/
inductive Stores (blank : Disk) (path : String) (limit : UInt32) :
    Disk → Option (List String) → Prop where
  | absent : Stores blank path limit blank none
  | log {disk : Disk} {number : FileNumber} {texts : List String} :
      disk.Holds path number limit (textRecords texts) →
      Stores blank path limit disk (some texts)

end Disk

/-! ## Open logs -/

structure OpenLog.Keeps (log : OpenLog) (disk : Disk) (path : String) (limit : UInt32)
    (texts : List String) : Prop where
  holds : disk.Holds path log.file limit (textRecords texts)
  mirrors : log.handle.Mirrors (logFile (textRecords texts)) (textRecords texts) []
  limit : log.handle.settings.maxPayloadSize = limit
  opened : log.handle.closed = false

section

variable {log : OpenLog} {blank disk : Disk} {path : String} {limit : UInt32}
  {texts : List String}

theorem length_textRecords (texts : List String) : (textRecords texts).length = texts.length :=
  List.length_map _

theorem textRecords_append (texts : List String) (item : String) :
    textRecords (texts ++ [item]) = textRecords texts ++ [.ofPayload (Utf8.encode item)] :=
  List.map_append

theorem textRecords_take (texts : List String) (count : Nat) :
    textRecords (texts.take count) = (textRecords texts).take count :=
  List.map_take

theorem Disk.Stores.openLog {settings : Settings} {texts : Option (List String)}
    (vacant : blank.Vacant path)
    (stores : Disk.Stores blank path settings.maxPayloadSize disk texts)
    (coherent : settings.Coherent) :
    let records := textRecords (texts.getD [])
    ∃ number after,
      Script.openLog path settings disk =
          ⟨.ok ⟨.restored path settings records (.intact records), number⟩, after, []⟩ ∧
        (⟨.restored path settings records (.intact records), number⟩ : OpenLog).Keeps after path
          settings.maxPayloadSize (texts.getD []) := by
  cases stores with
  | absent =>
      obtain ⟨number, opened, holds⟩ := vacant.openLog coherent
      refine ⟨number, _, ?_, holds, ?_, rfl, rfl⟩
      · rw [Script.openLog, opened]
        rfl
      · exact Handle.mirrors_restored_whole path _ holds.acceptable
  | @log _ number kept holds =>
      obtain ⟨opened, unchanged⟩ := holds.openLog coherent rfl none
      refine ⟨number, disk, ?_, holds, ?_, rfl, rfl⟩
      · rw [Script.openLog, opened, unchanged]
        rfl
      · exact Handle.mirrors_restored_whole path _ holds.acceptable

theorem Disk.Holds.store {number : FileNumber} {records others : List Record}
    (holds : disk.Holds path number limit records)
    (acceptable : ∀ record ∈ others, record.Acceptable limit) :
    (disk.store number (logFile others)).Holds path number limit others := by
  obtain ⟨standing, _⟩ := List.getElem?_eq_some_iff.mp holds.contents
  exact ⟨holds.finds.store number _, List.getElem?_set_self standing, acceptable⟩

namespace OpenLog.Keeps

theorem request_eq (keeps : log.Keeps disk path limit texts) {Value : Type}
    {request : Handle → Bytes → Served Value} {served : Served Value}
    (answered : request log.handle (logFile (textRecords texts)) = served) :
    Script.request log request disk =
      ⟨served.answer.map fun value => (value, ⟨served.handle, log.file⟩),
        disk.store log.file served.file, []⟩ := by
  rw [Script.request, OpenLog.apply, keeps.holds.read, answered]

theorem store_same (keeps : log.Keeps disk path limit texts) :
    disk.store log.file (logFile (textRecords texts)) = disk :=
  Disk.store_of_getElem? keeps.holds.contents

theorem served (keeps : log.Keeps disk path limit texts) {Value : Type}
    (request : Handle → Bytes → Served Value) {others : List String} {value : Value}
    {handle : Handle} {events : List Event}
    (answered : request log.handle (logFile (textRecords texts)) =
      ⟨.ok value, handle, logFile (textRecords others), events⟩)
    (mirrors : handle.Mirrors (logFile (textRecords others)) (textRecords others) [])
    (settings : handle.settings = log.handle.settings) (opened : handle.closed = false) :
    ∃ after, Script.request log request disk = ⟨.ok (value, ⟨handle, log.file⟩), after, []⟩ ∧
      (⟨handle, log.file⟩ : OpenLog).Keeps after path limit others := by
  have limited : handle.settings.maxPayloadSize = limit := by rw [settings, keeps.limit]
  have acceptable := mirrors.acceptable
  rw [limited] at acceptable
  exact ⟨_, keeps.request_eq answered, keeps.holds.store acceptable, mirrors, limited, opened⟩

theorem refused (keeps : log.Keeps disk path limit texts) {Value : Type}
    {request : Handle → Bytes → Served Value} {failure : Failure}
    (answered : request log.handle (logFile (textRecords texts)) =
      .refused log.handle (logFile (textRecords texts)) failure) :
    Script.request log request disk = ⟨.error failure, disk, []⟩ := by
  rw [keeps.request_eq answered, Served.refused, keeps.store_same]
  rfl

theorem close (keeps : log.Keeps disk path limit texts) :
    Script.close log disk = ⟨.ok (), disk, []⟩ := by
  have closed : log.handle.close (logFile (textRecords texts)) =
      ⟨.ok (), { log.handle with closed := true, counters := log.handle.counters.countSync },
        logFile (textRecords texts), [.closed log.handle.path]⟩ := by
    rw [Handle.close, if_neg (ne_true_of_eq_false keeps.opened)]
  have requested : Script.request log Handle.close disk = _ := keeps.request_eq closed
  rw [keeps.store_same] at requested
  rw [Script.close, Script.bind_of_ok (congrArg Execution.answer requested), requested]
  rfl

theorem append_within (keeps : log.Keeps disk path limit texts) {item : String}
    (within : (Utf8.encode item).length ≤ limit.toNat) (synced : Bool) :
    ∃ later after,
      Script.append log (Utf8.encode item) synced disk =
          ⟨.ok (texts.length + 1, later), after, []⟩ ∧
        later.Keeps after path limit (texts ++ [item]) := by
  rw [← keeps.limit] at within
  have mirrors := keeps.mirrors.appended within
  have contents := mirrors.contents
  rw [← textRecords_append] at mirrors contents
  rw [List.append_nil] at contents
  rw [contents] at mirrors
  have written : log.handle.append none (logFile (textRecords texts)) (Utf8.encode item) =
      ⟨.ok (texts.length + 1), log.handle.appended (Utf8.encode item),
        logFile (textRecords (texts ++ [item])),
        log.handle.appendEvents (Utf8.encode item)⟩ := by
    rw [Handle.append_of_permits keeps.opened within (PlainLog.permits_none _), contents,
      keeps.mirrors.length_eq, length_textRecords]
  cases synced with
  | false =>
      obtain ⟨after, appended, kept⟩ := keeps.served
        (fun handle file => handle.append none file (Utf8.encode item)) written mirrors rfl
        keeps.opened
      exact ⟨_, after, appended, kept⟩
  | true =>
      have flushed := Handle.appendAndSync_of_ok (congrArg Served.answer written)
      rw [written] at flushed
      obtain ⟨after, appended, kept⟩ := keeps.served
        (fun handle file => handle.appendAndSync none file (Utf8.encode item)) flushed
        (mirrors.recounted _ _) rfl keeps.opened
      exact ⟨_, after, appended, kept⟩

theorem append_oversized (keeps : log.Keeps disk path limit texts) {item : String}
    (exceeds : limit.toNat < (Utf8.encode item).length) (synced : Bool) :
    Script.append log (Utf8.encode item) synced disk =
      ⟨.error (.payloadTooLarge (Utf8.encode item).length limit), disk, []⟩ := by
  have limited := keeps.limit
  subst limited
  have rejected : log.handle.append none (logFile (textRecords texts)) (Utf8.encode item) =
      .refused log.handle (logFile (textRecords texts))
        (.payloadTooLarge (Utf8.encode item).length log.handle.settings.maxPayloadSize) :=
    Handle.append_of_oversized keeps.opened exceeds
  cases synced with
  | false => exact keeps.refused rejected
  | true =>
      have failed := congrArg Served.answer rejected
      exact keeps.refused ((Handle.appendAndSync_of_error failed).trans rejected)

theorem get_present (keeps : log.Keeps disk path limit texts) {index : Nat} {text : String}
    (positive : 1 ≤ index) (found : texts[index - 1]? = some text) :
    Script.request log (fun handle file => handle.get file index) disk =
      ⟨.ok (Utf8.encode text, log), disk, []⟩ := by
  have record : (textRecords texts)[index - 1]? = some (.ofPayload (Utf8.encode text)) := by
    rw [textRecords, List.getElem?_map, found]
    rfl
  have requested : Script.request log (fun handle file => handle.get file index) disk = _ :=
    keeps.request_eq (keeps.mirrors.get_of_getElem? keeps.opened positive record)
  rw [requested, keeps.store_same]
  rfl

theorem get_missing (keeps : log.Keeps disk path limit texts) {index : Nat}
    (missing : ¬ (1 ≤ index ∧ index ≤ texts.length)) :
    Script.request log (fun handle file => handle.get file index) disk =
      ⟨.error (.indexOutOfRange index texts.length), disk, []⟩ := by
  rw [← length_textRecords] at missing ⊢
  exact keeps.refused (keeps.mirrors.get_of_missing keeps.opened missing)

theorem truncate_present (keeps : log.Keeps disk path limit texts) {index : Nat}
    (positive : 1 ≤ index) (present : index ≤ texts.length) :
    ∃ later after,
      Script.request log (fun handle file => handle.truncateFrom none file index) disk =
          ⟨.ok ((), later), after, []⟩ ∧
        later.Keeps after path limit (texts.take (index - 1)) := by
  rw [← length_textRecords] at present
  have mirrors := keeps.mirrors.truncated positive present
  have cut := keeps.mirrors.truncateFrom_eq keeps.opened none positive present
  rw [← textRecords_take] at mirrors cut
  obtain ⟨after, truncated, kept⟩ := keeps.served
    (fun handle file => handle.truncateFrom none file index) cut mirrors rfl keeps.opened
  exact ⟨_, after, truncated, kept⟩

theorem truncate_missing (keeps : log.Keeps disk path limit texts) {index : Nat}
    (missing : ¬ (1 ≤ index ∧ index ≤ texts.length)) :
    Script.request log (fun handle file => handle.truncateFrom none file index) disk =
      ⟨.error (.invalidTruncation index texts.length), disk, []⟩ := by
  rw [← length_textRecords] at missing ⊢
  exact keeps.refused (keeps.mirrors.truncateFrom_of_missing keeps.opened none missing)

theorem lastIndex_eq (keeps : log.Keeps disk path limit texts) :
    log.handle.lastIndex = texts.length := by
  rw [← length_textRecords texts]
  exact keeps.mirrors.length_eq

end OpenLog.Keeps

end

end FrameLog
