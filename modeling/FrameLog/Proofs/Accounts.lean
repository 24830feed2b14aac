import Mathlib.Algebra.GroupWithZero.Nat
import FrameLog.Proofs.Exchanges

/-!
# The account of a run

The counters of a handle against the exchanges since it was opened. Only an exchange that
succeeded is booked, closing is booked once, and the write offset is what was found at
opening, plus all that was written, less all that truncations gave back. `Booked` says what
one exchange adds, `Accounts` what all of them come to.

Main statement: after any run whose syncs succeed the counters are exactly what its exchanges
come to, whatever else failed meanwhile and whatever became of the file, and once the handle
is closed they stay.
-/

set_option autoImplicit false

namespace FrameLog

/-! ## What is booked -/

namespace Exchange

def written? (exchange : Exchange) : Option Bytes :=
  match exchange.request, exchange.served.answer with
  | .append payload, .ok _ | .appendAndSync payload, .ok _ => some payload
  | _, _ => none

/-- Whether a sync that was asked for, alone or behind an append, succeeded. -/
def synced (exchange : Exchange) : Bool :=
  match exchange.request, exchange.served.answer with
  | .sync, .ok _ | .appendAndSync _, .ok _ => true
  | _, _ => false

def metMismatch (exchange : Exchange) : Bool :=
  match exchange.request, exchange.served.answer with
  | .get _, .error (.checksumMismatch ..) | .readAll, .error (.checksumMismatch ..) => true
  | _, _ => false

/-- How far a truncation that succeeded moved the write offset back. -/
def givenBack (exchange : Exchange) : Nat :=
  match exchange.request, exchange.served.answer with
  | .truncateFrom _, .ok _ => exchange.before.writeOffset - exchange.served.handle.writeOffset
  | _, _ => 0

structure Booked (exchange : Exchange) : Prop where
  writes : exchange.served.handle.counters.writes =
    exchange.before.counters.writes + exchange.written?.toList.length
  bytesWritten : exchange.served.handle.counters.bytesWritten =
    exchange.before.counters.bytesWritten +
      (exchange.written?.toList.map fun payload => FrameHeader.size + payload.length).sum
  syncs : exchange.served.handle.counters.syncs + exchange.before.closed.toNat =
    exchange.before.counters.syncs + exchange.synced.toNat + exchange.served.handle.closed.toNat
  corruptions : exchange.served.handle.counters.corruptions =
    exchange.before.counters.corruptions + exchange.metMismatch.toNat
  writeOffset : exchange.served.handle.writeOffset + exchange.givenBack +
      exchange.before.counters.bytesWritten =
    exchange.before.writeOffset + exchange.served.handle.counters.bytesWritten

/-- What is booked was done: the frame stands where the log ended, and the log ends earlier
than it did. -/
structure Genuine (exchange : Exchange) : Prop where
  standing : ∀ payload, exchange.written? = some payload →
    (Record.ofPayload payload).encode <+:
      exchange.served.file.drop exchange.before.writeOffset
  earlier : ∀ index reply, exchange.request = .truncateFrom index →
    exchange.served.answer = .ok reply →
      exchange.served.handle.writeOffset < exchange.before.writeOffset

end Exchange

namespace Handle

variable {handle : Handle} {request : Request} {syncFailure : Option IoCause}
  {served : Served Reply}

/-! ## One exchange -/

theorem ReadEffect.booked {file : Bytes} (reads : request.isRead = true)
    (effect : handle.ReadEffect file served) :
    (⟨handle, request, syncFailure, served⟩ : Exchange).Booked := by
  cases request with
  | get | readAll =>
      cases effect with
      | found | mismatched => exact ⟨rfl, rfl, rfl, rfl, rfl⟩
      | @refused failure matching =>
          cases failure with
          | checksumMismatch => cases matching
          | _ => exact ⟨rfl, rfl, rfl, rfl, rfl⟩
  | append | appendAndSync | sync | truncateFrom | close => cases reads

theorem Effect.booked (effect : handle.Effect request none served) (orderly : handle.Orderly) :
    (⟨handle, request, none, served⟩ : Exchange).Booked := by
  have grown : ∀ size, handle.writeOffset + size + 0 + handle.counters.bytesWritten =
      handle.writeOffset + (handle.counters.bytesWritten + size) := by
    omega
  cases effect with
  | @appended payload | @appendedAndSynced payload =>
      exact ⟨rfl, rfl, rfl, rfl, grown (Record.ofPayload payload).frameSize⟩
  | synced file opened => exact ⟨rfl, rfl, rfl, rfl, rfl⟩
  | @truncated index offset file opened found =>
      have below := orderly.lt_writeOffset found
      have shrunk : offset + (handle.writeOffset - offset) + handle.counters.bytesWritten =
          handle.writeOffset + handle.counters.bytesWritten := by
        omega
      exact ⟨rfl, rfl, rfl, rfl, shrunk⟩
  | read opened reads effect => exact effect.booked reads
  | closed file opened =>
      have once : handle.counters.syncs + 1 + handle.closed.toNat =
          handle.counters.syncs + 0 + 1 := by
        rw [opened]
        rfl
      exact ⟨rfl, rfl, once, rfl, rfl⟩
  | closedAgain file closed => exact ⟨rfl, rfl, rfl, rfl, rfl⟩
  | @refused request _ failure events file other matching =>
      cases request with
      | append | appendAndSync | sync | truncateFrom => exact ⟨rfl, rfl, rfl, rfl, rfl⟩
      | get | readAll =>
          cases failure with
          | checksumMismatch => cases matching
          | _ => exact ⟨rfl, rfl, rfl, rfl, rfl⟩
      | close => exact absurd rfl other

theorem Effect.genuine (effect : handle.Effect request syncFailure served)
    (orderly : handle.Orderly) :
    (⟨handle, request, syncFailure, served⟩ : Exchange).Genuine := by
  constructor
  · intro payload written
    cases effect with
    | appended file | appendedAndSynced file =>
        cases written
        exact Bytes.prefix_drop_overlay file _ _
    | appendedUnsynced | synced | truncated | truncatedUnsynced | closed | closedUnsynced
    | closedAgain => cases written
    | read _ reads =>
        cases request with
        | get | readAll => cases written
        | append | appendAndSync | sync | truncateFrom | close => cases reads
    | refused => cases request <;> cases written
  · intro index reply asked answered
    cases effect with
    | truncated file opened found => exact orderly.lt_writeOffset found
    | truncatedUnsynced => cases answered
    | read _ reads =>
        cases asked
        cases reads
    | refused => cases answered
    | _ => cases asked

theorem Effect.report (effect : handle.Effect request syncFailure served) :
    served.handle.report = handle.report := by
  cases effect with
  | read _ _ effect => cases effect <;> rfl
  | _ => rfl

theorem Effect.closed_iff (effect : handle.Effect request syncFailure served) :
    served.handle.closed = true ↔ handle.closed = true ∨ request = .close := by
  cases effect with
  | closed | closedUnsynced => exact iff_of_true rfl (.inr rfl)
  | closedAgain file closed => exact iff_of_true closed (.inr rfl)
  | read _ reads effect =>
      have other : request ≠ .close := by
        rintro rfl
        cases reads
      cases effect <;> exact (or_iff_left other).symm
  | refused _ other => exact (or_iff_left other).symm
  | _ => exact (or_iff_left (fun same => by cases same)).symm

theorem Effect.of_closed (effect : handle.Effect request syncFailure served)
    (closed : handle.closed = true) : served.handle = handle := by
  cases effect with
  | closedAgain | refused => rfl
  | appended _ opened | appendedAndSynced _ opened | appendedUnsynced _ opened
  | synced _ opened | truncated _ opened | truncatedUnsynced _ opened | read opened
  | closed _ opened | closedUnsynced _ opened => cases closed.symm.trans opened

/-! ## All exchanges -/

structure Accounts (past : List Exchange) (handle : Handle) : Prop where
  writes : handle.counters.writes = (past.filterMap Exchange.written?).length
  bytesWritten : handle.counters.bytesWritten =
    ((past.filterMap Exchange.written?).map fun payload =>
      FrameHeader.size + payload.length).sum
  syncs : handle.counters.syncs = past.countP Exchange.synced + handle.closed.toNat
  corruptions : handle.counters.corruptions =
    handle.report.recordsCorrupted + past.countP Exchange.metMismatch
  writeOffset : handle.writeOffset + (past.map Exchange.givenBack).sum =
    handle.report.validBytes + handle.counters.bytesWritten

theorem Fresh.accounts (fresh : handle.Fresh) : Accounts [] handle where
  writes := by rw [fresh.counters]; rfl
  bytesWritten := by rw [fresh.counters]; rfl
  syncs := by rw [fresh.counters, fresh.stillOpen]; rfl
  corruptions := by rw [fresh.counters]; rfl
  writeOffset := by rw [fresh.counters, fresh.validBytes]; rfl

theorem Accounts.book {past : List Exchange} {exchange : Exchange}
    (accounts : Accounts past exchange.before) (booked : exchange.Booked)
    (report : exchange.served.handle.report = exchange.before.report) :
    Accounts (past ++ [exchange]) exchange.served.handle := by
  obtain ⟨writes, bytesWritten, syncs, corruptions, writeOffset⟩ := booked
  have written : (past ++ [exchange]).filterMap Exchange.written? =
      past.filterMap Exchange.written? ++ exchange.written?.toList := by
    rw [List.filterMap_append]
    cases found : exchange.written? <;> simp [found]
  have counted : ∀ test : Exchange → Bool,
      (past ++ [exchange]).countP test = past.countP test + (test exchange).toNat := by
    intro test
    rw [List.countP_append, List.countP_singleton]
    cases test exchange <;> rfl
  constructor
  · rw [written, List.length_append, writes, accounts.writes]
  · rw [written, List.map_append, List.sum_append, bytesWritten, accounts.bytesWritten]
  · have before := accounts.syncs
    rw [counted]
    omega
  · rw [counted, corruptions, accounts.corruptions, report, Nat.add_assoc]
  · have before := accounts.writeOffset
    have given : ((past ++ [exchange]).map Exchange.givenBack).sum =
        (past.map Exchange.givenBack).sum + exchange.givenBack := by
      simp only [List.map_append, List.sum_append, List.map_cons, List.map_nil, List.sum_cons,
        List.sum_nil, Nat.add_zero]
    rw [given, report]
    omega

/-! ## All of a run -/

theorem closed_run_iff (opened : handle.closed = false) (file : Bytes)
    (occurrences : List Occurrence) :
    (handle.run file occurrences).handle.closed = true ↔
      ∃ exchange ∈ handle.exchanges file occurrences, exchange.request = .close := by
  apply run_of_effects
    (motive := fun past now =>
      now.closed = true ↔ ∃ exchange ∈ past, exchange.request = .close)
  · simp [opened]
  · intro past now request syncFailure served sofar effect
    rw [effect.closed_iff, sofar]
    simp only [List.mem_append, List.mem_singleton, or_and_right, exists_or, exists_eq_left]

theorem run_of_closed (closed : handle.closed = true) (file : Bytes)
    (occurrences : List Occurrence) : (handle.run file occurrences).handle = handle := by
  apply run_of_effects (motive := fun _ now => now = handle)
  · rfl
  · rintro past now request syncFailure served rfl effect
    exact effect.of_closed closed

theorem report_run (handle : Handle) (file : Bytes) (occurrences : List Occurrence) :
    (handle.run file occurrences).handle.report = handle.report := by
  apply run_of_effects (motive := fun _ now => now.report = handle.report)
  · rfl
  · intro past now request syncFailure served same effect
    exact effect.report.trans same

theorem Fresh.accounts_run (fresh : handle.Fresh) (orderly : handle.Orderly) (file : Bytes)
    {occurrences : List Occurrence} (hold : SyncsHold occurrences) :
    Accounts (handle.exchanges file occurrences) (handle.run file occurrences).handle := by
  have holds := run_of_effects
    (motive := fun past now => now.Orderly ∧
      ((∀ exchange ∈ past, exchange.syncFailure = none) → Accounts past now))
    ⟨orderly, fun _ => fresh.accounts⟩ ?_ file occurrences
  · exact holds.2 (syncFailure_exchanges hold)
  · rintro past now request syncFailure served ⟨orderly, sofar⟩ effect
    refine ⟨effect.moves.orderly orderly, ?_⟩
    intro synced
    obtain ⟨earlier, last⟩ := List.forall_mem_append.mp synced
    obtain rfl : syncFailure = none := last _ List.mem_cons_self
    exact (sofar earlier).book (effect.booked orderly) effect.report

end Handle

/-- Whatever was opened, and whatever is requested and done to its file from then on, the
counters of the handle are what its exchanges come to, as long as syncs succeed: the frames
written and their sizes, the syncs that succeeded with one more for closing, and the
mismatches met. The write offset is where the log ended at opening, and all that was written,
but for what truncations gave back. Nothing that is asked of a closed handle changes it. -/
theorem counters_account_for_run (disk : Disk) (path : String) (settings : Settings)
    (ceiling : Option Nat) (log : OpenLog)
    (opened : (disk.openLog path settings ceiling).answer = .ok log) (file : Bytes)
    (occurrences : List Occurrence) (hold : SyncsHold occurrences) :
    let run := log.handle.run file occurrences
    let exchanges := log.handle.exchanges file occurrences
    run.answers = exchanges.map (·.served.answer) ∧
      run.handle.report = log.handle.report ∧
      Handle.Accounts exchanges run.handle ∧
      (∀ exchange ∈ exchanges, exchange.Genuine) ∧
      (run.handle.closed = true ↔ ∃ exchange ∈ exchanges, exchange.request = .close) ∧
      (run.handle.closed = true → ∀ contents later,
        (run.handle.run contents later).handle = run.handle) := by
  intro run exchanges
  obtain ⟨found, attached⟩ := Disk.attach_of_openLog opened
  have fresh := Handle.fresh_of_attach attached
  have orderly := Handle.orderly_of_attach attached
  refine ⟨Handle.answers_run _ _ _, Handle.report_run _ _ _,
    fresh.accounts_run orderly file hold, ?_,
    Handle.closed_run_iff fresh.stillOpen file occurrences, ?_⟩
  · intro exchange member
    obtain ⟨effect, orderly, _⟩ := Handle.orderly_exchanges orderly file occurrences exchange member
    exact Handle.Effect.genuine effect orderly
  · intro closed contents later
    exact Handle.run_of_closed closed contents later

/-- A write fails, other octets are put into the file, a mismatch is met, the file is emptied
and a truncation fails on it before it gives a record back, and after closing nothing is
counted. -/
theorem counters_account_for_run_with_failures :
    let disk : Disk := { names := [(["one.wal"], 0)], contents := [[]] }
    let opening := disk.openLog "one.wal" {} none
    let occurrences : List Occurrence :=
      [.request none (.append [1, 2]), .request none (.appendAndSync [3]),
        .request (some 4) (.append [5]), .overwritten (List.replicate 20 0),
        .request none (.get 1), .overwritten [], .request (some 4) (.truncateFrom 2),
        .request none (.truncateFrom 2), .request none .sync, .request none .close,
        .request none .close, .request none (.append [6])]
    ∃ log, opening.answer = .ok log ∧ SyncsHold occurrences ∧
      let run := log.handle.run (opening.disk.read 0) occurrences
      let exchanges := log.handle.exchanges (opening.disk.read 0) occurrences
      run.handle.counters = ⟨2, 3, 21, 1⟩ ∧
        (exchanges.map Exchange.givenBack).sum = 10 ∧ run.handle.writeOffset + 10 = 8 + 21 ∧
        ∀ contents later, (run.handle.run contents later).handle = run.handle := by
  intro disk opening occurrences
  have hold : SyncsHold occurrences := by
    simp [SyncsHold, occurrences]
  refine ⟨_, rfl, hold, ?_⟩
  intro run exchanges
  obtain ⟨_, _, accounts, _, _, settled⟩ :=
    counters_account_for_run disk "one.wal" {} none _ rfl (opening.disk.read 0) occurrences hold
  change Handle.Accounts exchanges run.handle at accounts
  have counters : run.handle.counters = ⟨2, 3, 21, 1⟩ := by decide +kernel
  have given : (exchanges.map Exchange.givenBack).sum = 10 := by decide +kernel
  have found : run.handle.report.validBytes = 8 := by decide +kernel
  have conserved := accounts.writeOffset
  rw [given, found, counters] at conserved
  exact ⟨counters, given, conserved, settled (by decide +kernel)⟩

end FrameLog
