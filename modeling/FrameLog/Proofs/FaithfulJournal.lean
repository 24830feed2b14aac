import FrameLog.Journal
import FrameLog.Proofs.Exchanges
import FrameLog.Proofs.SettledFile

/-!
# The events of a run are its journal

Following the events of a run from where the log was opened leads to where the handle has got
to, exchange by exchange, but for one thing that is never reported: a truncation that has cut
the file and then fails to make the cut durable. Among the events, a warning stands in front
of every append past the advised size: `Warned` is the shape of such lists, which every effect
extends.

Main statement: with the unreported cuts put in their places this holds of every run, whatever
fails in it and whatever becomes of the file. A failure says nothing that would have to be
followed, unless it is that of the sync behind an append.
-/

set_option autoImplicit false

namespace FrameLog

/-- Events of a request that made the log grow. -/
def Event.tellsOfGrowth : Event → Bool
  | appended .. | outgrown .. => true
  | _ => false

def Event.tellsOfChange : Event → Bool
  | truncated .. => true
  | event => event.tellsOfGrowth

theorem Event.unchanged_of_rollbackFailed {events : List Event} {offset : Nat}
    (onlyLeft : ∀ event ∈ events, ∃ cause, event = .rollbackFailed offset cause) :
    ∀ event ∈ events, event.tellsOfChange = false := by
  intro event member
  obtain ⟨cause, rfl⟩ := onlyLeft event member
  rfl

/-! ## Following one exchange -/

namespace Journal

theorem replay?_of_unchanged {events : List Event} (journal : Journal)
    (unchanged : ∀ event ∈ events, event.tellsOfChange = false) :
    journal.replay? events = some journal := by
  induction events with
  | nil => rfl
  | cons event events ih =>
      obtain ⟨first, later⟩ := List.forall_mem_cons.mp unchanged
      have passed : journal.follow? event = some journal := by
        cases event with
        | appended | outgrown | truncated => cases first
        | _ => rfl
      rw [replay?, passed]
      exact ih later

end Journal

namespace Exchange

/-- What a truncation should have reported that failed, but left fewer records behind. -/
def unreported? (exchange : Exchange) : Option Event :=
  match exchange.request, exchange.served.answer with
  | .truncateFrom index, .error _ =>
      if exchange.served.handle.length < exchange.before.length then
        some (.truncated index exchange.served.handle.writeOffset
          (exchange.before.length - exchange.served.handle.length))
      else none
  | _, _ => none

def told (exchange : Exchange) : List Event :=
  exchange.served.events ++ exchange.unreported?.toList

theorem told_of_reported {exchange : Exchange} (reported : exchange.unreported? = none) :
    exchange.told = exchange.served.events := by
  rw [told, reported]
  exact List.append_nil _

theorem unreported?_of_kept {exchange : Exchange}
    (kept : exchange.served.handle = exchange.before) : exchange.unreported? = none := by
  unfold unreported?
  split
  · rw [kept]
    exact if_neg (Nat.lt_irrefl _)
  · rfl

end Exchange

namespace Handle

/-- What a journal that was followed so far says about the log. -/
def journal (handle : Handle) : Journal := ⟨handle.positions.offsets, handle.writeOffset⟩

variable {handle : Handle} {request : Request} {syncFailure : Option IoCause}
  {served : Served Reply}

theorem replay?_appendEvents (handle : Handle) (payload : Bytes) :
    handle.journal.replay? (handle.appendEvents payload) =
      some (handle.appended payload).journal := by
  have next : (handle.appended payload).journal =
      ⟨handle.positions.offsets ++ [handle.writeOffset],
        handle.writeOffset + FrameHeader.size + payload.length⟩ := by
    rw [Nat.add_assoc]
    rfl
  have step : handle.journal.follow?
      (.appended (handle.length + 1) handle.writeOffset payload.length) =
      some (handle.appended payload).journal := by
    rw [next]
    exact if_pos ⟨rfl, rfl⟩
  have followed : handle.journal.replay?
      [.appended (handle.length + 1) handle.writeOffset payload.length] =
      some (handle.appended payload).journal := by
    simp only [Journal.replay?, step, Option.bind_some]
  unfold appendEvents
  split
  · exact followed
  · exact followed

theorem length_truncated {index offset : Nat}
    (found : handle.positions.offsetOf? index = some offset) :
    (handle.truncated index offset).length = index - 1 ∧ index - 1 < handle.length := by
  obtain ⟨_, standing⟩ := Positions.offsetOf?_eq_some_iff.mp found
  obtain ⟨present, _⟩ := List.getElem?_eq_some_iff.mp standing
  exact ⟨List.length_take_of_le (Nat.le_of_lt present), present⟩

theorem replay?_truncated {index offset : Nat}
    (found : handle.positions.offsetOf? index = some offset) :
    handle.journal.replay? [.truncated index offset (handle.length - (index - 1))] =
      some (handle.truncated index offset).journal := by
  obtain ⟨positive, standing⟩ := Positions.offsetOf?_eq_some_iff.mp found
  obtain ⟨_, within⟩ := length_truncated found
  have removed : handle.length - (index - 1) + index = handle.length + 1 := by
    omega
  have step : handle.journal.follow?
      (.truncated index offset (handle.length - (index - 1))) =
      some (handle.truncated index offset).journal :=
    if_pos ⟨Nat.one_le_iff_ne_zero.mpr positive, standing, removed⟩
  simp only [Journal.replay?, step, Option.bind_some]

theorem told_truncatedUnsynced {index offset : Nat} {cause : IoCause} (file : Bytes)
    (found : handle.positions.offsetOf? index = some offset) :
    (⟨handle, .truncateFrom index, some cause,
        ⟨.error (.io cause), handle.truncated index offset, file.resize offset, []⟩⟩ :
      Exchange).told = [.truncated index offset (handle.length - (index - 1))] := by
  obtain ⟨left, within⟩ := length_truncated found
  have fewer : (handle.truncated index offset).length < handle.length := left.trans_lt within
  rw [← left]
  exact congrArg Option.toList (if_pos fewer)

theorem ReadEffect.unchanged {file : Bytes} (effect : handle.ReadEffect file served) :
    (∀ event ∈ served.events, event.tellsOfChange = false) ∧
      served.handle.journal = handle.journal := by
  cases effect with
  | found | refused => exact ⟨fun _ member => (by cases member), rfl⟩
  | mismatched =>
      refine ⟨?_, rfl⟩
      intro event member
      obtain rfl := List.mem_singleton.mp member
      rfl

theorem unreported?_of_isRead (reads : request.isRead = true) :
    (⟨handle, request, syncFailure, served⟩ : Exchange).unreported? = none := by
  cases request with
  | get | readAll => rfl
  | append | appendAndSync | sync | truncateFrom | close => cases reads

theorem Effect.replay?_told (effect : handle.Effect request syncFailure served) :
    handle.journal.replay? (⟨handle, request, syncFailure, served⟩ : Exchange).told =
      some served.handle.journal := by
  cases effect with
  | @appended payload | @appendedAndSynced payload | @appendedUnsynced payload =>
      rw [Exchange.told_of_reported rfl]
      exact handle.replay?_appendEvents payload
  | truncated file opened found =>
      rw [Exchange.told_of_reported rfl]
      exact replay?_truncated found
  | truncatedUnsynced file opened found =>
      rw [told_truncatedUnsynced file found]
      exact replay?_truncated found
  | synced | closed | closedUnsynced | closedAgain => rfl
  | read opened reads effect =>
      obtain ⟨unchanged, same⟩ := effect.unchanged
      rw [Exchange.told_of_reported (unreported?_of_isRead reads), same]
      exact handle.journal.replay?_of_unchanged unchanged
  | refused file other matching onlyLeft =>
      rw [Exchange.told_of_reported (Exchange.unreported?_of_kept rfl)]
      exact handle.journal.replay?_of_unchanged (Event.unchanged_of_rollbackFailed onlyLeft)

theorem Effect.unsynced_of_unreported (effect : handle.Effect request syncFailure served)
    {event : Event}
    (missing : (⟨handle, request, syncFailure, served⟩ : Exchange).unreported? = some event) :
    ∃ cause, syncFailure = some cause ∧ served.answer = .error (.io cause) := by
  cases effect with
  | @truncatedUnsynced _ _ cause => exact ⟨cause, rfl, rfl⟩
  | read opened reads effect => cases (unreported?_of_isRead reads).symm.trans missing
  | refused => cases (Exchange.unreported?_of_kept rfl).symm.trans missing
  | _ => cases missing

theorem Effect.events_of_error (effect : handle.Effect request syncFailure served)
    {failure : Failure} (failed : served.answer = .error failure) :
    (∀ event ∈ served.events, event.tellsOfChange = false) ∨
      ∃ payload cause, request = .appendAndSync payload ∧ syncFailure = some cause ∧
        failure = .io cause ∧ served.events = handle.appendEvents payload := by
  cases effect with
  | @appendedUnsynced payload cause =>
      cases failed
      exact .inr ⟨payload, cause, rfl, rfl, rfl, rfl⟩
  | truncatedUnsynced => exact .inl fun _ member => by cases member
  | read _ _ effect => exact .inl effect.unchanged.1
  | refused file other matching onlyLeft =>
      exact .inl (Event.unchanged_of_rollbackFailed onlyLeft)
  | _ => cases failed

end Handle

/-! ## Warnings of growth -/

/-- Lists of events in which appends past the advised size come with their warning, and
nothing else does. -/
inductive Warned (most : UInt64) : List Event → Prop where
  | nil : Warned most []
  | other {event : Event} {events : List Event} :
      event.tellsOfGrowth = false → Warned most events → Warned most (event :: events)
  | within {index offset length : Nat} {events : List Event} :
      offset + (FrameHeader.size + length) ≤ most.toNat → Warned most events →
      Warned most (.appended index offset length :: events)
  | past {index offset length : Nat} {events : List Event} :
      most.toNat < offset + (FrameHeader.size + length) → Warned most events →
      Warned most (.outgrown (offset + (FrameHeader.size + length)) most ::
        .appended index offset length :: events)

namespace Warned

variable {most : UInt64} {events : List Event}

theorem append (warned : Warned most events) {behind : List Event} (later : Warned most behind) :
    Warned most (events ++ behind) := by
  induction warned with
  | nil => exact later
  | other quiet _ ih => exact .other quiet ih
  | within small _ ih => exact .within small ih
  | past large _ ih => exact .past large ih

theorem of_unchanged (unchanged : ∀ event ∈ events, event.tellsOfChange = false) :
    Warned most events := by
  induction events with
  | nil => exact .nil
  | cons event events ih =>
      obtain ⟨first, later⟩ := List.forall_mem_cons.mp unchanged
      cases event with
      | truncated => cases first
      | _ => exact .other first (ih later)

theorem getLast?_cons_eq_iff {event warning : Event} {front : List Event}
    (different : event ≠ warning) :
    (event :: front).getLast? = some warning ↔ front.getLast? = some warning := by
  cases front with
  | nil => simp [different]
  | cons next front => rw [List.getLast?_cons_cons]

theorem append_iff (warned : Warned most events) {front behind : List Event}
    {index offset length : Nat}
    (parted : events = front ++ .appended index offset length :: behind) :
    front.getLast? = some (.outgrown (offset + (FrameHeader.size + length)) most) ↔
      most.toNat < offset + (FrameHeader.size + length) := by
  induction warned generalizing front with
  | nil => simp at parted
  | @other event _ quiet _ ih =>
      cases front with
      | nil =>
          cases parted
          cases quiet
      | cons first front =>
          cases parted
          have different : event ≠
              .outgrown (offset + (FrameHeader.size + length)) most := by
            rintro rfl
            cases quiet
          rw [getLast?_cons_eq_iff different]
          exact ih rfl
  | within small _ ih =>
      cases front with
      | nil =>
          cases parted
          exact iff_of_false (fun same => by cases same) (Nat.not_lt.mpr small)
      | cons event front =>
          cases parted
          rw [getLast?_cons_eq_iff (fun same => by cases same)]
          exact ih rfl
  | past large _ ih =>
      cases front with
      | nil => cases parted
      | cons warning front =>
          cases front with
          | nil =>
              cases parted
              exact iff_of_true rfl large
          | cons event front =>
              cases parted
              rw [List.getLast?_cons_cons, getLast?_cons_eq_iff (fun same => by cases same)]
              exact ih rfl

theorem of_warning (warned : Warned most events) {front behind : List Event} {size : Nat}
    {advised : UInt64} (parted : events = front ++ .outgrown size advised :: behind) :
    advised = most ∧ ∃ index offset length later,
      behind = .appended index offset length :: later ∧
        size = offset + (FrameHeader.size + length) := by
  induction warned generalizing front with
  | nil => simp at parted
  | other quiet _ ih =>
      cases front with
      | nil =>
          cases parted
          cases quiet
      | cons event front =>
          cases parted
          exact ih rfl
  | within _ _ ih =>
      cases front with
      | nil => cases parted
      | cons event front =>
          cases parted
          exact ih rfl
  | past _ _ ih =>
      cases front with
      | nil =>
          cases parted
          exact ⟨rfl, _, _, _, _, rfl, rfl⟩
      | cons warning front =>
          cases front with
          | nil => cases parted
          | cons event front =>
              cases parted
              exact ih rfl

end Warned

/-- A warning stands directly in front of an append if, and only if, that reaches past the
advised size. It tells the size that is reached, and there are no other warnings. -/
structure WarnsOfGrowth (most : UInt64) (events : List Event) : Prop where
  appends : ∀ front index offset length behind,
    events = front ++ .appended index offset length :: behind →
      (front.getLast? = some (.outgrown (offset + (FrameHeader.size + length)) most) ↔
        most.toNat < offset + (FrameHeader.size + length))
  warnings : ∀ front size advised behind,
    events = front ++ .outgrown size advised :: behind →
      advised = most ∧ ∃ index offset length later,
        behind = .appended index offset length :: later ∧
          size = offset + (FrameHeader.size + length)

theorem Warned.warnsOfGrowth {most : UInt64} {events : List Event}
    (warned : Warned most events) : WarnsOfGrowth most events where
  appends := fun _ _ _ _ _ => warned.append_iff
  warnings := fun _ _ _ _ => warned.of_warning

namespace Handle

variable {handle : Handle} {request : Request} {syncFailure : Option IoCause}
  {served : Served Reply}

theorem warned_appendEvents (handle : Handle) (payload : Bytes) :
    Warned handle.settings.maxSegmentSize (handle.appendEvents payload) := by
  unfold appendEvents
  split
  · next past => exact .past past .nil
  · next within => exact .within (Nat.not_lt.mp within) .nil

theorem Effect.warned (effect : handle.Effect request syncFailure served) :
    Warned handle.settings.maxSegmentSize served.events := by
  cases effect with
  | @appended payload | @appendedAndSynced payload | @appendedUnsynced payload =>
      exact handle.warned_appendEvents payload
  | truncated | closed => exact .other rfl .nil
  | closedUnsynced => exact .other rfl (.other rfl .nil)
  | synced | truncatedUnsynced | closedAgain => exact .nil
  | read _ _ effect => exact .of_unchanged effect.unchanged.1
  | refused file other matching onlyLeft =>
      exact .of_unchanged (Event.unchanged_of_rollbackFailed onlyLeft)

/-- Coherent settings leave room for one largest record behind the header. -/
theorem Effect.not_outgrown_of_isEmpty (effect : handle.Effect request syncFailure served)
    (orderly : handle.Orderly) (coherent : handle.settings.Coherent)
    (empty : handle.isEmpty = true) (size : Nat) (advised : UInt64) :
    .outgrown size advised ∉ served.events := by
  have start := orderly.writeOffset_of_isEmpty empty
  have quiet : ∀ {payload : Bytes}, payload.length ≤ handle.settings.maxPayloadSize.toNat →
      .outgrown size advised ∉ handle.appendEvents payload := by
    intro payload within member
    have room : FileHeader.size + FrameHeader.size + handle.settings.maxPayloadSize.toNat ≤
        handle.settings.maxSegmentSize.toNat := coherent
    have reached : (handle.appended payload).writeOffset =
        FileHeader.size + (FrameHeader.size + payload.length) := by
      rw [← start]
      rfl
    have small : ¬ handle.settings.maxSegmentSize.toNat <
        (handle.appended payload).writeOffset := by
      omega
    rw [appendEvents, if_neg small] at member
    cases List.mem_singleton.mp member
  intro member
  cases effect with
  | appended file opened within | appendedAndSynced file opened within
  | appendedUnsynced file opened within => exact quiet within member
  | truncated | closed => cases List.mem_singleton.mp member
  | closedUnsynced => simp at member
  | synced | truncatedUnsynced | closedAgain => cases member
  | read _ _ effect => cases effect.unchanged.1 _ member
  | refused file other matching onlyLeft =>
      cases Event.unchanged_of_rollbackFailed onlyLeft _ member

end Handle

/-! ## Opening -/

theorem events_startLog (ceiling : Option Nat) (file : Bytes) (wasTruncated : Bool)
    (events : List Event) : (startLog ceiling file wasTruncated events).events = events := by
  cases written : (Transfer.write ceiling file 0 FileHeader.current.encode).failure with
  | none => simp only [startLog, written]
  | some cause => simp only [startLog, written]

theorem not_opened_of_mem_settleTail {policy : TailPolicy} {file : Bytes} {scanned : Scan}
    {event : Event} (member : event ∈ (settleTail policy file scanned).events)
    (path : String) (records : Nat) (truncated : Bool) :
    event ≠ .opened path records truncated := by
  rintro rfl
  rcases scanned with ⟨_, fault⟩
  cases policy with
  | truncate =>
      cases fault with
      | absent => cases member
      | partialHeader | oversized | torn | mismatch => cases List.mem_singleton.mp member
  | strict =>
      cases fault with
      | absent | partialHeader | oversized | torn | mismatch => cases member

theorem not_opened_of_mem_recover {settings : Settings} {ceiling : Option Nat} {file : Bytes}
    {event : Event} (member : event ∈ (recover settings ceiling file).events)
    (path : String) (records : Nat) (truncated : Bool) :
    event ≠ .opened path records truncated := by
  unfold recover at member
  split at member
  · rw [events_startLog] at member
    cases member
  · split at member
    · split at member
      · rw [events_startLog] at member
        rintro rfl
        cases List.mem_singleton.mp member
      · cases member
    · split at member
      · cases member
      · exact not_opened_of_mem_settleTail member path records truncated

theorem Handle.events_of_attach {path : String} {settings : Settings} {ceiling : Option Nat}
    {file : Bytes} {handle : Handle}
    (opened : (attach path settings ceiling file).answer = .ok handle) :
    ∃ earlier, (attach path settings ceiling file).events =
        earlier ++ [.opened path handle.report.recordsRecovered handle.report.wasTruncated] ∧
      ∀ event ∈ earlier, ∀ other records truncated, event ≠ .opened other records truncated := by
  refine ⟨(recover settings ceiling file).events, ?_, ?_⟩
  · rcases outcome : recover settings ceiling file with ⟨answer, after, events⟩
    simp only [attach, outcome] at opened ⊢
    cases answer with
    | error failure => cases opened
    | ok recovered =>
        cases opened
        rfl
  · intro event member
    exact not_opened_of_mem_recover member

/-! ## All of a run -/

namespace Handle

variable {handle : Handle}

theorem replay?_run (handle : Handle) (file : Bytes) (occurrences : List Occurrence) :
    handle.journal.replay? ((handle.exchanges file occurrences).flatMap Exchange.told) =
      some (handle.run file occurrences).handle.journal := by
  apply run_of_effects
    (motive := fun past now =>
      handle.journal.replay? (past.flatMap Exchange.told) = some now.journal)
  · rfl
  · intro past now request syncFailure served followed effect
    rw [List.flatMap_append, Journal.replay?_append, followed, Option.bind_some,
      List.flatMap_singleton]
    exact effect.replay?_told

theorem warned_run (handle : Handle) (file : Bytes) (occurrences : List Occurrence) :
    Warned handle.settings.maxSegmentSize (handle.run file occurrences).events := by
  rw [events_run]
  have holds := run_of_effects
    (motive := fun past now => now.settings = handle.settings ∧
      Warned handle.settings.maxSegmentSize (past.flatMap (·.served.events)))
    ⟨rfl, .nil⟩ ?_ file occurrences
  · exact holds.2
  · rintro past now request syncFailure served ⟨same, sofar⟩ effect
    refine ⟨effect.moves.settings.trans same, ?_⟩
    rw [List.flatMap_append, List.flatMap_singleton, ← same]
    rw [← same] at sofar
    exact sofar.append effect.warned

end Handle

theorem Exchange.flatMap_told {exchanges : List Exchange}
    (reported : ∀ exchange ∈ exchanges, exchange.unreported? = none) :
    exchanges.flatMap Exchange.told = exchanges.flatMap (·.served.events) :=
  List.flatMap_congr fun exchange member => told_of_reported (reported exchange member)

/-- The events of a run, exchange by exchange, are a journal that starts where the log was
opened. -/
structure Run.Journaled (run : Run) (exchanges : List Exchange) (start : Journal)
    (advised : UInt64) : Prop where
  inOrder : run.events = exchanges.flatMap (·.served.events)
  followed : start.replay? (exchanges.flatMap Exchange.told) = some run.handle.journal
  /-- Nothing is kept back but cuts that could not be made durable. -/
  unreported : ∀ exchange ∈ exchanges, ∀ event, exchange.unreported? = some event →
    ∃ cause, exchange.syncFailure = some cause ∧ exchange.served.answer = .error (.io cause)
  complete : (∀ exchange ∈ exchanges, exchange.unreported? = none) →
    start.replay? run.events = some run.handle.journal
  /-- A failure reports no change, unless a record was appended and only its sync failed. -/
  failures : ∀ exchange ∈ exchanges, ∀ failure, exchange.served.answer = .error failure →
    (∀ event ∈ exchange.served.events, event.tellsOfChange = false) ∨
      ∃ payload cause, exchange.request = .appendAndSync payload ∧
        exchange.syncFailure = some cause ∧ failure = .io cause ∧
        exchange.served.events = exchange.before.appendEvents payload
  warnings : WarnsOfGrowth advised run.events
  roomy : ∀ exchange ∈ exchanges, exchange.before.isEmpty = true →
    ∀ size most, .outgrown size most ∉ exchange.served.events

/-- Whatever was opened, and whatever is requested and done to its file from then on, the
events are a journal of the log. Opening ends with the number of records found, and from
there and from where the report says that they end, each append takes the next index where
the last record ended, and each truncation goes back to where the record at its index
started; what is reached is where the handle is, once the cuts are put in whose syncs failed.
The warning of growth comes with exactly the appends that reach past the advised size, so
never with one to an empty log. -/
theorem journal_follows_log (disk : Disk) (path : String) (settings : Settings)
    (ceiling : Option Nat) (log : OpenLog)
    (opened : (disk.openLog path settings ceiling).answer = .ok log) (file : Bytes)
    (occurrences : List Occurrence) :
    let start : Journal := ⟨log.handle.positions.offsets, log.handle.report.validBytes⟩
    (∃ earlier, (disk.openLog path settings ceiling).events =
        earlier ++ [.opened path start.lastIndex log.handle.report.wasTruncated] ∧
      ∀ event ∈ earlier, ∀ other records truncated,
        event ≠ .opened other records truncated) ∧
    (log.handle.run file occurrences).Journaled (log.handle.exchanges file occurrences) start
      settings.maxSegmentSize := by
  intro start
  obtain ⟨found, attached, reported⟩ := Disk.attachment_of_openLog opened
  have fresh := Handle.fresh_of_attach attached
  have same : log.handle.settings = settings := (Handle.attach_eq_ok attached).1
  have effects := Handle.orderly_exchanges (Handle.orderly_of_attach attached) file occurrences
  have begins : start = log.handle.journal := congrArg (Journal.mk _) fresh.validBytes
  have inOrder := log.handle.events_run file occurrences
  have followed := log.handle.replay?_run file occurrences
  rw [← begins] at followed
  constructor
  · obtain ⟨earlier, events, unopened⟩ := Handle.events_of_attach attached
    rw [reported, events, fresh.count]
    exact ⟨earlier, rfl, unopened⟩
  · refine ⟨inOrder, followed, ?_, ?_, ?_, ?_, ?_⟩
    · intro exchange member event missing
      exact Handle.Effect.unsynced_of_unreported (effects exchange member).1 missing
    · intro reported
      rw [inOrder, ← Exchange.flatMap_told reported]
      exact followed
    · intro exchange member failure failed
      exact Handle.Effect.events_of_error (effects exchange member).1 failed
    · have warned := log.handle.warned_run file occurrences
      rw [same] at warned
      exact warned.warnsOfGrowth
    · intro exchange member empty
      obtain ⟨effect, orderly, kept⟩ := effects exchange member
      have coherent : exchange.before.settings.Coherent := by
        rw [kept, same]
        exact Disk.coherent_of_openLog opened
      exact Handle.Effect.not_outgrown_of_isEmpty effect orderly coherent empty

/-- The advised size is reached and then passed, a write fails, the file is emptied, a
truncation fails on it and another one cannot be made durable, and neither can an append. -/
theorem journal_follows_log_past_advised_size :
    let disk : Disk := { names := [(["one.wal"], 0)], contents := [[]] }
    let settings : Settings := { maxPayloadSize := 3, maxSegmentSize := 20 }
    let opening := disk.openLog "one.wal" settings none
    let occurrences : List Occurrence :=
      [.request none (.append [1, 2, 3]), .request none (.append [4]),
        .request (some 4) (.append [5]), .overwritten [], .request none (.get 1),
        .request (some 4) (.truncateFrom 2),
        .request none (.truncateFrom 2) (some .fileTooLarge),
        .request none (.appendAndSync [6]) (some .fileTooLarge),
        .request none .close (some .fileTooLarge), .request none (.append [7])]
    ∃ log, opening.answer = .ok log ∧
      let start : Journal := ⟨log.handle.positions.offsets, log.handle.report.validBytes⟩
      let run := log.handle.run (opening.disk.read 0) occurrences
      let exchanges := log.handle.exchanges (opening.disk.read 0) occurrences
      run.events = [.appended 1 8 3, .outgrown 30 20, .appended 2 20 1, .outgrown 30 20,
          .appended 2 20 1, .finalSyncFailed "one.wal" .fileTooLarge, .closed "one.wal"] ∧
        exchanges.filterMap Exchange.unreported? = [.truncated 2 20 1] ∧
        start.replay? (exchanges.flatMap Exchange.told) = some ⟨[8, 20], 30⟩ ∧
        WarnsOfGrowth 20 run.events := by
  intro disk settings opening occurrences
  refine ⟨_, rfl, ?_⟩
  intro start run exchanges
  have journaled : run.Journaled exchanges start 20 :=
    (journal_follows_log disk "one.wal" settings none _ rfl (opening.disk.read 0) occurrences).2
  have reached : run.handle.journal = ⟨[8, 20], 30⟩ := by decide +kernel
  exact ⟨by decide +kernel, by decide +kernel, journaled.followed.trans (congrArg some reached),
    journaled.warnings⟩

/-- The events alone do not tell of a cut that could not be made durable, and a failed request
reports the record that it appended. -/
theorem events_alone_lose_unsynced_cut :
    let disk : Disk := { names := [(["one.wal"], 0)], contents := [[]] }
    let opening := disk.openLog "one.wal" {} none
    let occurrences : List Occurrence :=
      [.request none (.append [1, 2]),
        .request none (.appendAndSync [3]) (some .fileTooLarge),
        .request none (.truncateFrom 2) (some .fileTooLarge)]
    ∃ log, opening.answer = .ok log ∧
      let start : Journal := ⟨log.handle.positions.offsets, log.handle.report.validBytes⟩
      let run := log.handle.run (opening.disk.read 0) occurrences
      run.answers =
          [.ok (.index 1), .error (.io .fileTooLarge), .error (.io .fileTooLarge)] ∧
        run.events = [.appended 1 8 2, .appended 2 19 1] ∧
        start.replay? run.events = some ⟨[8, 19], 29⟩ ∧
        run.handle.journal = ⟨[8], 19⟩ := by
  intro disk opening occurrences
  exact ⟨_, rfl, by decide +kernel, by decide +kernel, by decide +kernel, by decide +kernel⟩

end FrameLog
