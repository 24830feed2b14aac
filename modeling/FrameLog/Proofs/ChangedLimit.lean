import FrameLog.Proofs.Additions
import FrameLog.Proofs.PlainRefinement
import FrameLog.Proofs.UndisturbedRun

/-!
# Opening under another limit

A log is written under one limit on payloads, closed, and opened under another. Repair
takes it to end in front of the first record that is over the new limit, and what stood
from there on is lost for every later opening. The strict policy refuses the log for that
record and loses nothing. Under a limit that every payload keeps, neither finds anything
to object to.
-/

set_option autoImplicit false

namespace FrameLog

/-- The payloads in front of the first that is over the limit. -/
def fitting (limit : UInt32) (payloads : List Bytes) : List Bytes :=
  payloads.takeWhile fun payload => payload.length ≤ limit.toNat

inductive CutAt (limit : UInt32) : List Bytes → List Bytes → Prop where
  | nowhere {payloads : List Bytes} :
      (∀ payload ∈ payloads, payload.length ≤ limit.toNat) → CutAt limit payloads payloads
  | oversized {kept later : List Bytes} {payload : Bytes} :
      (∀ payload ∈ kept, payload.length ≤ limit.toNat) → limit.toNat < payload.length →
      CutAt limit (kept ++ payload :: later) kept

theorem cutAt_fitting (limit : UInt32) (payloads : List Bytes) :
    CutAt limit payloads (fitting limit payloads) := by
  induction payloads with
  | nil => exact .nowhere (fun _ member => by cases member)
  | cons payload payloads ih =>
      by_cases within : payload.length ≤ limit.toNat
      · have longer : fitting limit (payload :: payloads) = payload :: fitting limit payloads :=
          List.takeWhile_cons_of_pos (decide_eq_true within)
        rw [longer]
        generalize fitting limit payloads = kept at ih
        cases ih with
        | nowhere fits => exact .nowhere (List.forall_mem_cons.mpr ⟨within, fits⟩)
        | oversized fits exceeds =>
            exact .oversized (List.forall_mem_cons.mpr ⟨within, fits⟩) exceeds
      · have none : fitting limit (payload :: payloads) = [] :=
          List.takeWhile_cons_of_neg (by simpa using within)
        rw [none]
        have front : ∀ payload ∈ ([] : List Bytes), payload.length ≤ limit.toNat := by simp
        exact .oversized front (Nat.lt_of_not_le within)

/-! ## The file that was written -/

theorem Handle.Mirrors.runAlone_onlyAdds {handle : Handle} {file : Bytes} {records : List Record}
    (mirrors : handle.Mirrors file records []) (opened : handle.closed = false)
    {requests : List Request}
    (adds : ∀ request ∈ requests, request.OnlyAdds handle.settings.maxPayloadSize)
    (staysOpen : Request.close ∉ requests) :
    let run := handle.runAlone file (requests.map (Prod.mk none))
    run.handle.Mirrors run.file
      (records ++ (requests.filterMap Request.payload?).map Record.ofPayload) [] := by
  intro run
  let schedule := requests.map (Made.mk 0)
  have asSchedule : run = handle.runSchedule file schedule := by
    simp only [run, schedule, Handle.runAlone, Handle.runSchedule, List.map_map]
    rfl
  obtain ⟨added, answered, additions, mirrored, _⟩ :=
    Mirrors.runSchedule mirrors schedule (by
      intro made member
      obtain ⟨request, among, rfl⟩ := List.mem_map.mp member
      exact adds request among)
  rw [← asSchedule] at answered additions mirrored
  have requested := Run.map_fst_ledger answered
  have neverClosed : ¬ ClosedBy (run.ledger schedule) := by
    rintro ⟨entry, member, closing⟩
    have made : entry.1 ∈ schedule := requested ▸ List.mem_map_of_mem member
    obtain ⟨request, among, same⟩ := List.mem_map.mp made
    rw [← same] at closing
    exact staysOpen (closing ▸ among)
  have stillOpen : run.handle.closed = false := by
    rw [← Bool.not_eq_true, additions.shut_iff opened]
    exact neverClosed
  have all : added = requests.filterMap Request.payload? := by
    rw [additions.added_of_open stillOpen, asked_eq, requested, List.filterMap_map]
    rfl
  rwa [← all]

theorem Handle.Mirrors.closing {handle : Handle} {file dangling : Bytes} {records : List Record}
    (mirrors : handle.Mirrors file records dangling) :
    let served := handle.serve none file .close
    served.handle.closed = true ∧ served.handle.Mirrors served.file records dangling := by
  cases closed : handle.closed with
  | true =>
      rw [serve_close_of_closed closed]
      exact ⟨closed, mirrors⟩
  | false =>
      rw [serve_close_of_opened closed]
      exact ⟨rfl, mirrors.recounted true _⟩

theorem Handle.Mirrors.runAlone_closing {handle : Handle} {file : Bytes} {records : List Record}
    (mirrors : handle.Mirrors file records []) (opened : handle.closed = false)
    {requests : List Request}
    (adds : ∀ request ∈ requests, request.OnlyAdds handle.settings.maxPayloadSize)
    (staysOpen : Request.close ∉ requests) :
    let run := handle.runAlone file (requests.map (Prod.mk none) ++ [(none, .close)])
    run.handle.closed = true ∧
      run.handle.Mirrors run.file
        (records ++ (requests.filterMap Request.payload?).map Record.ofPayload) [] := by
  have mirrored := mirrors.runAlone_onlyAdds opened adds staysOpen
  rw [Handle.runAlone, List.map_append, run_append]
  exact mirrored.closing

/-! ## What the other limit makes of it -/

theorem readFrame_oversized {limit larger : UInt32} {payload : Bytes}
    (within : payload.length ≤ larger.toNat) (exceeds : limit.toNat < payload.length)
    (behind : Bytes) :
    readFrame limit ((Record.ofPayload payload).encode ++ behind) =
      .error (.oversized (storedLength payload)) := by
  have longer : limit < storedLength payload := by
    rw [UInt32.lt_iff_toNat_lt, storedLength_toNat within]
    exact exceeds
  rw [readFrame_eq_iff, Record.encode, List.append_assoc]
  exact .oversized longer

section

variable {settings : Settings} {limit : UInt32} {payloads : List Bytes}

theorem Handle.attach_payloads (path : String) (ceiling : Option Nat)
    (fits : ∀ payload ∈ payloads, payload.length ≤ settings.maxPayloadSize.toNat) :
    (attach path settings ceiling (logFile (payloads.map .ofPayload))).Recovers payloads false ∧
      (attach path settings ceiling (logFile (payloads.map .ofPayload))).file =
        logFile (payloads.map .ofPayload) := by
  have attached := attach_logFile path ceiling (Record.acceptable_map_ofPayload fits)
  rwa [Record.map_payload_ofPayload] at attached

theorem logFile_map_cons (kept later : List Bytes) (payload : Bytes) :
    logFile ((kept ++ payload :: later).map .ofPayload) =
      logFile (kept.map .ofPayload) ++
        ((Record.ofPayload payload).encode ++ frames (later.map .ofPayload)) := by
  rw [List.map_append, logFile_append, List.map_cons, frames_cons]

theorem Handle.attach_repairing (path : String) (ceiling : Option Nat)
    (repairing : settings.tailPolicy = .truncate)
    (written : ∀ payload ∈ payloads, payload.length ≤ limit.toNat) {kept : List Bytes}
    (cut : CutAt settings.maxPayloadSize payloads kept) :
    (attach path settings ceiling (logFile (payloads.map .ofPayload))).Recovers kept
        (decide (kept.length < payloads.length)) ∧
      (attach path settings ceiling (logFile (payloads.map .ofPayload))).file =
        logFile (kept.map .ofPayload) := by
  cases cut with
  | nowhere fits =>
      rw [decide_eq_false (Nat.lt_irrefl _)]
      exact attach_payloads path ceiling fits
  | @oversized _ later payload fits exceeds =>
      have within := written payload (List.mem_append_right kept List.mem_cons_self)
      have shorter : kept.length < (kept ++ payload :: later).length := by simp
      have attached := attach_cut path ceiling repairing (Record.acceptable_map_ofPayload fits)
        (readFrame_oversized within exceeds (frames (later.map .ofPayload))) Fault.noConfusion rfl
      rw [Record.map_payload_ofPayload] at attached
      rwa [logFile_map_cons, decide_eq_true shorter]

theorem Handle.attach_refusing (path : String) (ceiling : Option Nat)
    (strict : settings.tailPolicy = .strict) {kept : List Bytes} (later : List Bytes)
    {payload : Bytes}
    (fits : ∀ payload ∈ kept, payload.length ≤ settings.maxPayloadSize.toNat)
    (within : payload.length ≤ limit.toNat)
    (exceeds : settings.maxPayloadSize.toNat < payload.length) :
    let file := logFile ((kept ++ payload :: later).map .ofPayload)
    (attach path settings ceiling file).answer =
        .error (.corrupted (.oversizedFrame
          (FileHeader.size + framesSize (kept.map .ofPayload)) (storedLength payload))) ∧
      (attach path settings ceiling file).file = file := by
  intro file
  have long : ¬ ((Record.ofPayload payload).encode ++
      frames (later.map .ofPayload)).length < FrameHeader.size := by
    have size := (Record.ofPayload payload).size_le_frameSize
    rw [List.length_append, Record.length_encode]
    omega
  have attached := attach_strict_of_long path ceiling strict
    (Record.acceptable_map_ofPayload fits) (readFrame_oversized within exceeds _) long
  rwa [← logFile_map_cons] at attached

end

/-- How the log with these payloads, that this handle has written under the limit, can be
opened with the settings, and then once more. -/
structure Reopening (path : String) (limit : UInt32) (written : Handle) (file : Bytes)
    (payloads : List Bytes) (settings : Settings) (ceiling : Option Nat) : Prop where
  whole : (∀ payload ∈ payloads, payload.length ≤ settings.maxPayloadSize.toNat) →
    (Handle.attach path settings ceiling file).Recovers payloads false
  /-- Repair keeps what stands in front of the first record over the limit, for good. -/
  repaired : settings.tailPolicy = .truncate →
    let kept := fitting settings.maxPayloadSize payloads
    let opening := Handle.attach path settings ceiling file
    opening.Recovers kept (decide (kept.length < payloads.length)) ∧
      ∀ (others : Settings) again, limit ≤ others.maxPayloadSize →
        (Handle.attach path others again opening.file).Recovers kept false
  /-- The strict policy names the first record over the limit, and loses nothing. -/
  refused : settings.tailPolicy = .strict →
    (¬ ∀ payload ∈ payloads, payload.length ≤ settings.maxPayloadSize.toNat) →
    let kept := fitting settings.maxPayloadSize payloads
    let opening := Handle.attach path settings ceiling file
    (∃ oversized offset declared, payloads[kept.length]? = some oversized ∧
      written.positions.offsetOf? (kept.length + 1) = some offset ∧
      declared.toNat = oversized.length ∧
      opening.answer = .error (.corrupted (.oversizedFrame offset declared))) ∧
      ∀ (others : Settings) again, limit ≤ others.maxPayloadSize →
        (Handle.attach path others again opening.file).Recovers payloads false

theorem CutAt.subset {limit : UInt32} {payloads kept : List Bytes}
    (cut : CutAt limit payloads kept) : kept ⊆ payloads := by
  cases cut with
  | nowhere => exact List.Subset.refl _
  | oversized => exact List.subset_append_left _ _

theorem Handle.Mirrors.reopening {handle : Handle} {payloads : List Bytes} (path : String)
    {limit : UInt32} (mirrors : handle.Mirrors (logFile (payloads.map .ofPayload))
      (payloads.map .ofPayload) [])
    (written : ∀ payload ∈ payloads, payload.length ≤ limit.toNat) (settings : Settings)
    (ceiling : Option Nat) :
    Reopening path limit handle (logFile (payloads.map .ofPayload)) payloads settings
      ceiling := by
  have cut := cutAt_fitting settings.maxPayloadSize payloads
  have larger : ∀ {others : Settings}, limit ≤ others.maxPayloadSize → ∀ payload ∈ payloads,
      payload.length ≤ others.maxPayloadSize.toNat := by
    intro others growing payload among
    exact Nat.le_trans (written payload among) (UInt32.le_iff_toNat_le.mp growing)
  constructor
  · intro fits
    exact (attach_payloads path ceiling fits).1
  · intro repairing kept opening
    obtain ⟨recovers, after⟩ := attach_repairing path ceiling repairing written cut
    refine ⟨recovers, ?_⟩
    intro others again growing
    rw [show opening.file = _ from after]
    exact (attach_payloads path again fun payload among =>
      larger growing payload (cut.subset among)).1
  · intro strict exceeds kept opening
    generalize standing : fitting settings.maxPayloadSize payloads = front at cut
    cases cut with
    | nowhere fits => exact absurd fits exceeds
    | @oversized _ later payload fits longer =>
        have within := written payload (List.mem_append_right front List.mem_cons_self)
        obtain ⟨answered, after⟩ :=
          attach_refusing path ceiling strict later fits within longer
        have next : (front ++ payload :: later)[front.length]? = some payload := by
          rw [List.getElem?_append_right (Nat.le_refl _), Nat.sub_self, List.getElem?_cons_zero]
        have offset : handle.positions.offsetOf? (front.length + 1) =
            some (FileHeader.size + framesSize (front.map .ofPayload)) := by
          rw [mirrors.offsetOf?_eq (Nat.le_add_left 1 _) (by simp), Nat.add_sub_cancel,
            List.map_append, List.take_left' (List.length_map _)]
        rw [show kept = front from standing]
        refine ⟨⟨payload, _, _, next, offset, storedLength_toNat within, answered⟩, ?_⟩
        intro others again growing
        rw [show opening.file = _ from after]
        exact (attach_payloads path again (larger growing)).1

/-- A log is created, requests add to it, and it is closed. Opened under another limit it
ends in front of the first record that is too large for that limit, or is refused for it;
a log that keeps the new limit is opened whole. -/
theorem changed_limit_cuts_at_first_oversized (path : String) (settings : Settings)
    (requests : List Request)
    (adds : ∀ request ∈ requests, request.OnlyAdds settings.maxPayloadSize)
    (staysOpen : Request.close ∉ requests) :
    let creation := Handle.attach path settings none []
    let payloads := requests.filterMap Request.payload?
    ∃ handle, creation.answer = .ok handle ∧
      let run := handle.runAlone creation.file (requests.map (Prod.mk none) ++ [(none, .close)])
      run.handle.closed = true ∧ run.handle.lastIndex = payloads.length ∧
      ∀ others ceiling, Reopening path settings.maxPayloadSize run.handle run.file payloads
        others ceiling := by
  intro creation payloads
  obtain ⟨handle, created, stands, same, _⟩ :=
    Handle.attach_empty path settings (PlainLog.permits_none _)
  refine ⟨handle, created, ?_⟩
  intro run
  have fits : ∀ payload ∈ payloads, payload.length ≤ settings.maxPayloadSize.toNat := by
    intro payload among
    obtain ⟨request, member, asks⟩ := List.mem_filterMap.mp among
    exact (adds request member).within asks
  rw [← same] at adds
  obtain ⟨closed, mirrors⟩ := stands.mirrors.runAlone_closing stands.closed adds staysOpen
  refine ⟨closed, mirrors.length_eq.trans (List.length_map _), ?_⟩
  intro others ceiling
  have whole : run.file = logFile (payloads.map .ofPayload) :=
    mirrors.contents.trans (List.append_nil _)
  rw [whole]
  rw [show handle.runAlone _ _ = run from rfl, whole] at mirrors
  exact mirrors.reopening path fits others ceiling

/-- The second of three payloads is one octet over the new limit. -/
theorem changed_limit_cuts_behind_first_of_three :
    let creation := Handle.attach "log.wal" {} none []
    let requests : List Request := [.append [1, 2], .appendAndSync [1, 2, 3], .append [9]]
    let smaller : Settings := { maxPayloadSize := 2 }
    let strict : Settings := { maxPayloadSize := 2, tailPolicy := .strict }
    ∃ handle, creation.answer = .ok handle ∧
      let run := handle.runAlone creation.file (requests.map (Prod.mk none) ++ [(none, .close)])
      let cut := Handle.attach "log.wal" smaller none run.file
      let refused := Handle.attach "log.wal" strict none run.file
      cut.Recovers [[1, 2]] true ∧
        (Handle.attach "log.wal" {} none cut.file).Recovers [[1, 2]] false ∧
        (∃ failure, refused.answer = .error failure) ∧
        (Handle.attach "log.wal" {} none refused.file).Recovers [[1, 2], [1, 2, 3], [9]] false := by
  intro creation requests smaller strict
  obtain ⟨handle, created, _, _, reopening⟩ :=
    changed_limit_cuts_at_first_oversized "log.wal" {} requests (by decide) (by decide)
  obtain ⟨recovered, forGood⟩ := (reopening smaller none).repaired rfl
  obtain ⟨⟨_, _, _, _, _, _, failed⟩, spared⟩ :=
    (reopening strict none).refused rfl (by decide)
  exact ⟨handle, created, recovered, forGood {} none (UInt32.le_refl _), ⟨_, failed⟩,
    spared {} none (UInt32.le_refl _)⟩

end FrameLog
