import Mathlib.Data.List.Chain
import FrameLog.OpenLog
import FrameLog.Proofs.Effects
import FrameLog.Proofs.Recovery

/-!
# Bookkeeping

What a handle remembers of its log stays in order whatever becomes of the file. The only
things that a file decides are answers and counters: `Moves` lists what can happen to all
the rest. The bounds on the distances between records are found by the scan at opening, and
kept by every move.
-/

set_option autoImplicit false

namespace FrameLog

namespace Handle

/-! ## What a request changes -/

inductive Moves (handle : Handle) : Handle → Prop where
  | kept : Moves handle handle
  | grown {payload : Bytes} : payload.length ≤ handle.settings.maxPayloadSize.toNat →
      Moves handle (handle.appended payload)
  | cut {index offset : Nat} : handle.positions.offsetOf? index = some offset →
      Moves handle (handle.truncated index offset)
  | recounted {next : Handle} (closed : Bool) (counters : Counters) : Moves handle next →
      Moves handle { next with closed, counters }

theorem Effect.moves {handle : Handle} {request : Request} {syncFailure : Option IoCause}
    {served : Served Reply} (effect : handle.Effect request syncFailure served) :
    handle.Moves served.handle := by
  cases effect with
  | appended _ _ within | appendedUnsynced _ _ within => exact .grown within
  | appendedAndSynced _ _ within => exact .recounted _ _ (.grown within)
  | truncated _ _ found | truncatedUnsynced _ _ found => exact .cut found
  | synced | closed => exact .recounted _ _ .kept
  | closedUnsynced => exact .recounted true handle.counters .kept
  | closedAgain | refused => exact .kept
  | read _ _ effect =>
      cases effect with
      | found | refused => exact .kept
      | mismatched => exact .recounted _ _ .kept

theorem moves_serve (handle : Handle) (ceiling : Option Nat) (file : Bytes) (request : Request)
    (syncFailure : Option IoCause) :
    handle.Moves (handle.serve ceiling file request syncFailure).handle :=
  (handle.effect_serve ceiling file request syncFailure).moves

/-! ## What is kept -/

/-- Where the records start, and at last where the next one goes. -/
def boundaries (handle : Handle) : List Nat := handle.positions.offsets ++ [handle.writeOffset]

end Handle

/-- Between the offsets there is as much room as a frame takes whose payload is within the
limit. -/
def FrameApart (limit : UInt32) (offset next : Nat) : Prop :=
  offset + FrameHeader.size ≤ next ∧ next ≤ offset + FrameHeader.size + limit.toNat

/-- The records stand one behind the other from the header on, none too large, and the next
one is numbered on. -/
structure Handle.Orderly (handle : Handle) : Prop where
  starts : handle.boundaries.head? = some FileHeader.size
  spaced : handle.boundaries.IsChain (FrameApart handle.settings.maxPayloadSize)
  nextIndex : handle.nextIndex = handle.length + 1

theorem Record.frameApart {limit : UInt32} {payload : Bytes}
    (within : payload.length ≤ limit.toNat) (tag : UInt8) (checksum : UInt32) (offset : Nat) :
    FrameApart limit offset (offset + (⟨tag, payload, checksum⟩ : Record).frameSize) := by
  constructor
  · exact Nat.add_le_add_left (Record.size_le_frameSize _) offset
  · rw [Nat.add_assoc]
    exact Nat.add_le_add_left (Nat.add_le_add_left within FrameHeader.size) offset

namespace Handle

variable {handle next : Handle}

theorem Orderly.appended (orderly : handle.Orderly) {payload : Bytes}
    (within : payload.length ≤ handle.settings.maxPayloadSize.toNat) :
    (handle.appended payload).Orderly where
  starts := by
    have longer : (handle.appended payload).boundaries =
        handle.boundaries ++ [(handle.appended payload).writeOffset] := rfl
    rw [longer, List.head?_append, orderly.starts]
    rfl
  spaced := by
    have longer : (handle.appended payload).boundaries =
        handle.positions.offsets ++
          handle.writeOffset :: (handle.appended payload).writeOffset :: [] :=
      List.append_assoc _ _ _
    rw [longer, List.isChain_append_cons_cons]
    exact ⟨orderly.spaced, Record.frameApart within _ _ _, .singleton _⟩
  nextIndex := by
    change handle.length + 2 = (handle.positions.offsets ++ [handle.writeOffset]).length + 1
    rw [List.length_append]
    rfl

theorem Orderly.truncated (orderly : handle.Orderly) {index offset : Nat}
    (found : handle.positions.offsetOf? index = some offset) :
    (handle.truncated index offset).Orderly := by
  obtain ⟨positive, standing⟩ := Positions.offsetOf?_eq_some_iff.mp found
  obtain ⟨before, rfl⟩ := Nat.exists_eq_add_one_of_ne_zero positive
  rw [Nat.add_sub_cancel] at standing
  obtain ⟨present, _⟩ := List.getElem?_eq_some_iff.mp standing
  have shorter : (handle.truncated (before + 1) offset).boundaries =
      handle.boundaries.take (before + 1) := by
    rw [boundaries, boundaries, List.take_append_of_le_length (Nat.succ_le_of_lt present),
      List.take_add_one]
    exact congrArg _ (congrArg Option.toList standing.symm)
  constructor
  · rw [shorter, List.head?_take, if_neg (Nat.succ_ne_zero before), orderly.starts]
  · rw [shorter]
    exact orderly.spaced.take _
  · change before + 1 = (handle.positions.offsets.take before).length + 1
    rw [List.length_take_of_le (Nat.le_of_lt present)]

theorem Moves.settings (moves : handle.Moves next) : next.settings = handle.settings := by
  induction moves with
  | kept | grown | cut => rfl
  | recounted closed counters moves ih => exact ih

theorem Moves.orderly (moves : handle.Moves next) (orderly : handle.Orderly) : next.Orderly := by
  induction moves with
  | kept => exact orderly
  | grown within => exact orderly.appended within
  | cut found => exact orderly.truncated found
  | recounted closed counters moves ih => exact ⟨ih.starts, ih.spaced, ih.nextIndex⟩

/-! ## What opening finds -/

theorem head?_frameBoundaries (start : Nat) (records : List Record) :
    (frameOffsets start records ++ [start + framesSize records]).head? = some start := by
  cases records with
  | nil => rfl
  | cons record records => rfl

theorem isChain_frameBoundaries {limit : UInt32} {records : List Record}
    (acceptable : ∀ record ∈ records, record.Acceptable limit) (start : Nat) :
    (frameOffsets start records ++ [start + framesSize records]).IsChain
      (FrameApart limit) := by
  induction records generalizing start with
  | nil => exact .singleton _
  | cons record records ih =>
      have behind := ih (fun later member => acceptable later (List.mem_cons_of_mem _ member))
        (start + record.frameSize)
      have apart := Record.frameApart (acceptable record List.mem_cons_self).within record.tag
        record.checksum start
      rw [framesSize, ← Nat.add_assoc]
      refine List.isChain_cons.mpr ⟨?_, behind⟩
      intro next leads
      obtain rfl := Option.mem_unique (head?_frameBoundaries _ records) leads
      exact apart

theorem Mirrors.orderly {file dangling : Bytes} {records : List Record}
    (mirrors : handle.Mirrors file records dangling) : handle.Orderly := by
  have boundaries : handle.boundaries =
      frameOffsets FileHeader.size records ++ [FileHeader.size + framesSize records] := by
    rw [Handle.boundaries, mirrors.offsets, mirrors.writeOffset]
  constructor
  · rw [boundaries, head?_frameBoundaries]
  · rw [boundaries]
    exact isChain_frameBoundaries mirrors.acceptable _
  · rw [mirrors.nextIndex, mirrors.length_eq]

end Handle

structure Recovered.Reported (recovered : Recovered) : Prop where
  count : recovered.report.recordsRecovered = recovered.positions.length
  validBytes : recovered.report.validBytes = recovered.writeOffset

theorem reported_of_settleTail {policy : TailPolicy} {file : Bytes} {scanned : Scan}
    {recovered : Recovered} (answered : (settleTail policy file scanned).answer = .ok recovered) :
    recovered.Reported := by
  rcases scanned with ⟨records, fault⟩
  have count : records.length = (frameOffsets FileHeader.size records).length :=
    (length_frameOffsets _ _).symm
  cases policy with
  | truncate =>
      cases fault with
      | absent | partialHeader | oversized | torn | mismatch =>
          cases answered
          exact ⟨count, rfl⟩
  | strict =>
      cases fault with
      | absent | partialHeader =>
          cases answered
          exact ⟨count, rfl⟩
      | oversized | torn | mismatch => cases answered

theorem reported_of_recover {settings : Settings} {ceiling : Option Nat} {file : Bytes}
    {recovered : Recovered} (answered : (recover settings ceiling file).answer = .ok recovered) :
    recovered.Reported := by
  have recovery := recovery_recover settings ceiling file
  generalize recover settings ceiling file = outcome at recovery answered
  cases recovery with
  | started short =>
      obtain ⟨rfl, _⟩ := startLog_eq_ok short answered
      exact ⟨rfl, rfl⟩
  | brokenOff | foreign => cases answered
  | scanned => exact reported_of_settleTail answered

namespace Handle

variable {handle : Handle}

/-- Nothing was asked of the handle yet: it knows and has counted what its report says. -/
structure Fresh (handle : Handle) : Prop where
  stillOpen : handle.closed = false
  counters : handle.counters = { corruptions := handle.report.recordsCorrupted }
  count : handle.report.recordsRecovered = handle.lastIndex
  validBytes : handle.report.validBytes = handle.writeOffset

theorem fresh_of_attach {path : String} {settings : Settings} {ceiling : Option Nat}
    {file : Bytes} (opened : (attach path settings ceiling file).answer = .ok handle) :
    handle.Fresh := by
  cases answered : (recover settings ceiling file).answer with
  | error failure => cases (attach_of_error path answered).1.symm.trans opened
  | ok recovered =>
      cases (attach_of_ok path answered).1.symm.trans opened
      obtain ⟨count, validBytes⟩ := reported_of_recover answered
      exact ⟨rfl, rfl, count, validBytes⟩

theorem orderly_of_attach {path : String} {settings : Settings} {ceiling : Option Nat}
    {file : Bytes} (opened : (attach path settings ceiling file).answer = .ok handle) :
    handle.Orderly := by
  obtain ⟨_, _, records, dangling, mirrors, _⟩ := attach_eq_ok opened
  exact mirrors.orderly

/-! ## What may be relied on -/

/-- What is taken for granted when a record is added or taken away: the next one is put
behind all others and gets the index that is expected, and no more are taken away than
there are. -/
structure ChecksHold (handle : Handle) : Prop where
  behind : ∀ last, handle.positions.offsets.getLast? = some last → last < handle.writeOffset
  assigned : (handle.positions.push handle.writeOffset).2 = handle.nextIndex
  present : ∀ index offset, handle.positions.offsetOf? index = some offset →
    1 ≤ index ∧ index - 1 ≤ handle.length

theorem Orderly.checksHold (orderly : handle.Orderly) : handle.ChecksHold where
  behind := by
    intro last ends
    obtain ⟨front, parted⟩ := List.getLast?_eq_some_iff.mp ends
    have spaced := orderly.spaced
    rw [boundaries, parted, List.append_assoc, List.singleton_append,
      List.isChain_append_cons_cons] at spaced
    obtain ⟨_, ⟨apart, _⟩, _⟩ := spaced
    exact Nat.lt_of_lt_of_le (Nat.lt_add_of_pos_right (by decide)) apart
  assigned := orderly.nextIndex.symm
  present := by
    intro index offset found
    obtain ⟨positive, standing⟩ := Positions.offsetOf?_eq_some_iff.mp found
    obtain ⟨within, _⟩ := List.getElem?_eq_some_iff.mp standing
    exact ⟨Nat.one_le_iff_ne_zero.mpr positive, Nat.le_of_lt within⟩

theorem Orderly.lt_writeOffset (orderly : handle.Orderly) {index offset : Nat}
    (found : handle.positions.offsetOf? index = some offset) : offset < handle.writeOffset := by
  obtain ⟨_, standing⟩ := Positions.offsetOf?_eq_some_iff.mp found
  have ascending : handle.boundaries.IsChain (· < ·) := by
    apply orderly.spaced.imp
    intro start next apart
    exact Nat.lt_of_lt_of_le (Nat.lt_add_of_pos_right (by decide)) apart.1
  obtain ⟨_, _, behind⟩ := List.pairwise_append.mp ascending.pairwise
  exact behind offset (List.mem_of_getElem? standing) handle.writeOffset List.mem_cons_self

theorem Orderly.writeOffset_of_isEmpty (orderly : handle.Orderly)
    (empty : handle.isEmpty = true) : handle.writeOffset = FileHeader.size := by
  have none : handle.positions.offsets = [] := List.isEmpty_iff.mp empty
  have starts := orderly.starts
  rw [boundaries, none] at starts
  exact Option.some.inj starts

end Handle

/-! ## Among everything else -/

/-- What can happen while a log is open: a request, under the ceiling of its moment and with
the outcome of its sync, or anything at all that is done to the disk. -/
inductive Happening where
  | request (ceiling : Option Nat) (request : Request) (syncFailure : Option IoCause := none)
  | interference (left : Disk)

def OpenLog.undergo (log : OpenLog) (disk : Disk) : List Happening → OpenLog × Disk
  | [] => (log, disk)
  | .request ceiling request syncFailure :: later =>
      let outcome := log.serve disk ceiling request syncFailure
      outcome.log.undergo outcome.disk later
  | .interference left :: later => log.undergo left later

theorem OpenLog.orderly_undergo {log : OpenLog} (orderly : log.handle.Orderly) (disk : Disk)
    (happenings : List Happening) :
    (log.undergo disk happenings).1.handle.settings = log.handle.settings ∧
      (log.undergo disk happenings).1.handle.Orderly := by
  induction happenings generalizing log disk with
  | nil => exact ⟨rfl, orderly⟩
  | cons happening later ih =>
      cases happening with
      | interference left => exact ih orderly left
      | request ceiling request syncFailure =>
          have moves :=
            log.handle.moves_serve ceiling (disk.read log.file) request syncFailure
          have served : (log.serve disk ceiling request syncFailure).log.handle.Orderly :=
            moves.orderly orderly
          obtain ⟨kept, after⟩ := ih served (log.serve disk ceiling request syncFailure).disk
          exact ⟨kept.trans moves.settings, after⟩

theorem Disk.attachment_of_openLog {disk : Disk} {path : String} {settings : Settings}
    {ceiling : Option Nat} {log : OpenLog}
    (opened : (disk.openLog path settings ceiling).answer = .ok log) :
    ∃ file, (Handle.attach path settings ceiling file).answer = .ok log.handle ∧
      (disk.openLog path settings ceiling).events =
        (Handle.attach path settings ceiling file).events := by
  unfold openLog at opened ⊢
  split at opened
  · cases opened
  · split at opened
    · cases opened
    · next number prepared _ =>
        dsimp only at opened
        cases attached : (Handle.attach path settings ceiling (prepared.read number)).answer with
        | error failure =>
            rw [attached] at opened
            cases opened
        | ok handle =>
            rw [attached] at opened
            cases opened
            exact ⟨_, attached, rfl⟩

theorem Disk.attach_of_openLog {disk : Disk} {path : String} {settings : Settings}
    {ceiling : Option Nat} {log : OpenLog}
    (opened : (disk.openLog path settings ceiling).answer = .ok log) :
    ∃ file, (Handle.attach path settings ceiling file).answer = .ok log.handle := by
  obtain ⟨file, attached, _⟩ := attachment_of_openLog opened
  exact ⟨file, attached⟩

/-- Whatever was opened, and whatever is requested and done to the disk from then on, the
handle's bookkeeping is in order. -/
theorem bookkeeping_withstands_interference (disk : Disk) (path : String) (settings : Settings)
    (ceiling : Option Nat) (log : OpenLog)
    (opened : (disk.openLog path settings ceiling).answer = .ok log)
    (happenings : List Happening) :
    let handle := (log.undergo (disk.openLog path settings ceiling).disk happenings).1.handle
    handle.settings = settings ∧ handle.Orderly ∧ handle.lastIndex = handle.length ∧
      handle.ChecksHold := by
  intro handle
  obtain ⟨file, attached⟩ := Disk.attach_of_openLog opened
  obtain ⟨openedWith, _, records, dangling, mirrors, _⟩ := Handle.attach_eq_ok attached
  obtain ⟨kept, orderly⟩ :=
    OpenLog.orderly_undergo mirrors.orderly (disk.openLog path settings ceiling).disk happenings
  exact ⟨kept.trans openedWith, orderly, rfl, orderly.checksHold⟩

/-- The disk is lost between two requests, a write and a truncation fail, and a truncation
cannot be made durable. -/
theorem bookkeeping_withstands_loss_of_disk :
    let disk : Disk := { names := [(["one.wal"], 0)], contents := [[]] }
    let happenings : List Happening :=
      [.request none (.append [1, 2]), .request none (.append [3]), .interference {},
        .request (some 4) (.append [5]), .request none .readAll,
        .request (some 4) (.truncateFrom 2), .request none .sync (some .fileTooLarge),
        .request none (.truncateFrom 2) (some .fileTooLarge)]
    ∃ log, (disk.openLog "one.wal" {} none).answer = .ok log ∧
      let handle := (log.undergo (disk.openLog "one.wal" {} none).disk happenings).1.handle
      handle.positions.offsets = [8] ∧ handle.writeOffset = 19 ∧ handle.Orderly := by
  intro disk happenings
  obtain ⟨_, orderly, _, _⟩ :=
    bookkeeping_withstands_interference disk "one.wal" {} none _ rfl happenings
  exact ⟨_, rfl, by decide +kernel, by decide +kernel, orderly⟩

end FrameLog
