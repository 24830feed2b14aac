import FrameLog.Proofs.AlikeHandles
import FrameLog.Proofs.UndisturbedRun

/-!
# Truncating and starting over

What a handle knows is determined by the log that it mirrors: two handles with the same
settings that mirror one log are alike, whatever their pasts were. So a log that was
truncated goes on like one that never had the records, and like a file with the shorter log
that was just opened.

Main statement: after any run, truncating undoes appends, and equals opening a shorter log.
-/

set_option autoImplicit false

namespace FrameLog

namespace Handle

variable {handle : Handle} {file dangling : Bytes} {records : List Record}

theorem Mirrors.alike (mirrors : handle.Mirrors file records dangling) {other : Handle}
    {otherFile otherDangling : Bytes}
    (mirrored : other.Mirrors otherFile records otherDangling)
    (settings : handle.settings = other.settings) (closed : handle.closed = other.closed) :
    handle.Alike other where
  settings := settings
  positions := by
    rcases known : handle.positions with ⟨offsets⟩
    rcases found : other.positions with ⟨others⟩
    have left := mirrors.offsets
    have right := mirrored.offsets
    rw [known] at left
    rw [found] at right
    rw [show offsets = others from left.trans right.symm]
  writeOffset := mirrors.writeOffset.trans mirrored.writeOffset.symm
  nextIndex := mirrors.nextIndex.trans mirrored.nextIndex.symm
  closed := closed

/-- Truncating drops the record at `index` and those behind it, and leaves a handle and a
file as if the log had never been longer. -/
structure CutsBack (handle : Handle) (file : Bytes) (records : List Record) (index : Nat)
    (cut : Served Unit) : Prop where
  answer : cut.answer = .ok ()
  contents : cut.file = logFile (records.take (index - 1))
  asOpened : ∀ path ceiling, ∃ fresh,
    (attach path handle.settings ceiling cut.file).answer = .ok fresh ∧
      (attach path handle.settings ceiling cut.file).file = cut.file ∧
      cut.handle.Alike fresh ∧
      ∀ occurrences, (cut.handle.run cut.file occurrences).Alike (fresh.run cut.file occurrences)
  further : ∀ ceiling lower, 1 ≤ lower → lower < index →
    let direct := handle.truncateFrom ceiling file lower
    let again := cut.handle.truncateFrom ceiling cut.file lower
    direct.answer = .ok () ∧ again.answer = .ok () ∧ again.handle = direct.handle ∧
      again.file = direct.file

theorem truncated_truncated (handle : Handle) {lower index : Nat} (below : lower < index)
    (offset further : Nat) :
    (handle.truncated index offset).truncated lower further = handle.truncated lower further := by
  have shorter : min (lower - 1) (index - 1) = lower - 1 := by omega
  simp only [truncated, List.take_take, shorter]

theorem Mirrors.cutsBack (mirrors : handle.Mirrors file records dangling)
    (opened : handle.closed = false) (ceiling : Option Nat) {index : Nat} (positive : 1 ≤ index)
    (present : index ≤ records.length) :
    handle.CutsBack file records index (handle.truncateFrom ceiling file index) := by
  have cut := mirrors.truncated positive present
  rw [mirrors.truncateFrom_eq opened ceiling positive present]
  refine ⟨rfl, rfl, ?_, ?_⟩
  · intro path ceiling
    obtain ⟨attached, kept⟩ := attach_whole path ceiling cut.acceptable
    have fresh := mirrors_restored_whole path (.intact (records.take (index - 1))) cut.acceptable
    have alike := cut.alike fresh rfl opened
    exact ⟨_, attached, kept, alike, fun occurrences => alike.run _ occurrences⟩
  · intro ceiling lower above below
    have remaining : (records.take (index - 1)).take (lower - 1) = records.take (lower - 1) := by
      rw [List.take_take, Nat.min_eq_left (by omega)]
    have within : lower ≤ (records.take (index - 1)).length := by
      rw [List.length_take]
      omega
    have once := mirrors.truncateFrom_eq opened ceiling above (show lower ≤ records.length by omega)
    have twice := cut.truncateFrom_eq opened ceiling above within
    rw [remaining, truncated_truncated handle below] at twice
    exact ⟨congrArg Served.answer once, congrArg Served.answer twice,
      (congrArg Served.handle twice).trans (congrArg Served.handle once).symm,
      (congrArg Served.file twice).trans (congrArg Served.file once).symm⟩

/-! ## Undoing appends -/

def OnlyAppends (steps : List (Option Nat × Request)) : Prop :=
  ∀ step ∈ steps, ∃ payload, step.2.payload? = some payload

theorem Mirrors.runAlone_accepted (mirrors : handle.Mirrors file records dangling)
    (opened : handle.closed = false) {steps : List (Option Nat × Request)}
    (asks : OnlyAppends steps)
    (accepted : ∀ answer ∈ (handle.runAlone file steps).answers, answer.isOk = true) :
    let run := handle.runAlone file steps
    run.handle.closed = false ∧ run.handle.settings = handle.settings ∧
      ∃ added behind, added.length = steps.length ∧
        run.handle.Mirrors run.file (records ++ added) behind := by
  induction steps generalizing handle file records dangling with
  | nil =>
      refine ⟨opened, rfl, [], dangling, rfl, ?_⟩
      rwa [List.append_nil]
  | cons step steps ih =>
      rcases step with ⟨ceiling, request⟩
      obtain ⟨payload, asked⟩ := asks _ List.mem_cons_self
      have answered := accepted _ List.mem_cons_self
      obtain ⟨closed, settings, served⟩ :=
        (mirrors.appends opened ceiling asked).accepted mirrors answered
      obtain ⟨stillOpen, sameSettings, added, behind, count, mirrored⟩ :=
        ih served (closed.trans opened)
          (fun later member => asks later (List.mem_cons_of_mem _ member))
          (fun answer member => accepted answer (List.mem_cons_of_mem _ member))
      refine ⟨stillOpen, sameSettings.trans settings, .ofPayload payload :: added, behind, ?_, ?_⟩
      · rw [List.length_cons, List.length_cons, count]
      · rwa [List.append_assoc] at mirrored

theorem Mirrors.truncateFrom_accepted (mirrors : handle.Mirrors file records dangling)
    (opened : handle.closed = false) {steps : List (Option Nat × Request)} (nonempty : steps ≠ [])
    (asks : OnlyAppends steps)
    (accepted : ∀ answer ∈ (handle.runAlone file steps).answers, answer.isOk = true)
    (ceiling : Option Nat) :
    let run := handle.runAlone file steps
    let cut := run.handle.truncateFrom ceiling run.file (handle.length + 1)
    cut.answer = .ok () ∧ cut.handle.Alike handle ∧ cut.file = file.take handle.writeOffset := by
  rw [mirrors.length_eq]
  intro run cut
  obtain ⟨stillOpen, settings, added, behind, count, mirrored⟩ :=
    mirrors.runAlone_accepted opened asks accepted
  have positive : 1 ≤ records.length + 1 := Nat.le_add_left 1 _
  have present : records.length + 1 ≤ (records ++ added).length := by
    have several := List.length_pos_iff.mpr nonempty
    rw [List.length_append]
    omega
  obtain ⟨answer, after, same, closed, back⟩ :=
    mirrored.truncateFrom stillOpen ceiling positive present
  rw [Nat.add_sub_cancel, List.take_left] at after back
  refine ⟨answer, back.alike mirrors (same.trans settings) (closed.trans opened.symm), ?_⟩
  rw [mirrors.take_writeOffset]
  exact after

end Handle

/-- After any run on whatever file the log was opened on, truncating the open log at the
index that is next undoes all appends that were accepted since. Truncating at any record
leaves the log that a fresh opening of the shorter file finds, and truncating twice is
truncating at the lower of the two. An index without a record is refused. -/
theorem truncation_equals_shorter_history (path : String) (settings : Settings)
    (openingCeiling : Option Nat) (file : Bytes) (handle : Handle)
    (opened : (Handle.attach path settings openingCeiling file).answer = .ok handle)
    (steps : List (Option Nat × Request)) :
    let run := handle.runAlone (Handle.attach path settings openingCeiling file).file steps
    run.handle.closed = false →
    ∃ records dangling, run.handle.Mirrors run.file records dangling ∧
      run.handle.settings = settings ∧ (dangling = [] ∨ settings.tailPolicy = .strict) ∧
      (∀ appends, appends ≠ [] → Handle.OnlyAppends appends →
        let longer := run.handle.runAlone run.file appends
        (∀ answer ∈ longer.answers, answer.isOk = true) → ∀ ceiling,
        let cut := longer.handle.truncateFrom ceiling longer.file (run.handle.length + 1)
        cut.answer = .ok () ∧ cut.handle.Alike run.handle ∧
          cut.handle.lastIndex = run.handle.lastIndex ∧ cut.file ++ dangling = run.file) ∧
      (∀ ceiling index, 1 ≤ index → index ≤ run.handle.length →
        run.handle.CutsBack run.file records index
          (run.handle.truncateFrom ceiling run.file index)) ∧
      ∀ ceiling index, ¬ (1 ≤ index ∧ index ≤ run.handle.length) →
        run.handle.truncateFrom ceiling run.file index =
          .refused run.handle run.file (.invalidTruncation index run.handle.length) := by
  intro run stillOpen
  obtain ⟨same, _, found, before, mirrors, policy⟩ := Handle.attach_eq_ok opened
  obtain ⟨kept, records, dangling, mirrored, behind⟩ := mirrors.runAlone steps
  have length : run.handle.length = records.length := mirrored.length_eq
  refine ⟨records, dangling, mirrored, kept.trans same, ?_, ?_, ?_, ?_⟩
  · rcases behind with gone | ⟨rfl, _⟩
    · exact .inl gone
    · exact policy
  · intro appends nonempty asks longer accepted ceiling cut
    obtain ⟨answer, alike, after⟩ :=
      mirrored.truncateFrom_accepted stillOpen nonempty asks accepted ceiling
    rw [mirrored.take_writeOffset] at after
    refine ⟨answer, alike, congrArg Positions.lastIndex alike.positions, ?_⟩
    exact (congrArg (· ++ dangling) after).trans mirrored.contents.symm
  · intro ceiling index positive present
    rw [length] at present
    exact mirrored.cutsBack stillOpen ceiling positive present
  · intro ceiling index missing
    rw [length] at missing ⊢
    exact mirrored.truncateFrom_of_missing stillOpen ceiling missing

/-- A log of two records, with three octets behind the one that it was opened with. -/
theorem truncation_equals_shorter_history_of_two :
    let attached := Handle.attach "log.wal" { tailPolicy := .strict } none
      (logFile [.ofPayload [1, 2]] ++ [1, 0, 0])
    ∃ handle, attached.answer = .ok handle ∧
      let run := handle.runAlone attached.file [(some 20, .get 1), (none, .append [3])]
      run.handle.closed = false ∧ run.handle.length = 2 ∧
      (let longer := run.handle.runAlone run.file [(none, .append []), (none, .appendAndSync [4])]
      (longer.handle.truncateFrom none longer.file (run.handle.length + 1)).handle.Alike
        run.handle) ∧
      (∃ records, run.handle.CutsBack run.file records 2
        (run.handle.truncateFrom (some 4) run.file 2)) ∧
      run.handle.truncateFrom none run.file 3 =
        .refused run.handle run.file (.invalidTruncation 3 run.handle.length) := by
  intro attached
  have acceptable : ∀ record ∈ ([[1, 2]] : List Bytes).map Record.ofPayload,
      record.Acceptable ({ tailPolicy := .strict } : Settings).maxPayloadSize :=
    Record.acceptable_map_ofPayload (by decide)
  have short : ([1, 0, 0] : Bytes).length < FrameHeader.size := by decide
  have opened := (Handle.attach_strict_of_short "log.wal" none rfl acceptable short).1
  refine ⟨_, opened, ?_⟩
  intro run
  have stillOpen : run.handle.closed = false := by decide +kernel
  have length : run.handle.length = 2 := by decide +kernel
  obtain ⟨records, _, _, _, _, undone, cuts, refuses⟩ :=
    truncation_equals_shorter_history _ _ _ _ _ opened [(some 20, .get 1), (none, .append [3])]
      stillOpen
  have asks : Handle.OnlyAppends [(none, .append []), (none, .appendAndSync [4])] := by
    simp [Handle.OnlyAppends, Request.payload?]
  have restored := undone _ (List.cons_ne_nil _ _) asks (by decide +kernel) none
  have beyond : ¬ (1 ≤ 3 ∧ 3 ≤ run.handle.length) := by
    rw [length]
    decide
  exact ⟨stillOpen, length, restored.2.1,
    ⟨records, cuts (some 4) 2 (by decide) (Nat.le_of_eq length.symm)⟩, refuses none 3 beyond⟩

end FrameLog
