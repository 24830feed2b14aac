import FrameLog.Proofs.UndisturbedRun

/-!
# Appends that fail

An open log refuses a payload over its limit before it touches the file. An append that the
ceiling stops may have written a part of its frame, over or past whatever stood behind the
log; it cuts the file back to the write offset, so the part is gone and so is what stood
there before. In neither case does the handle change.

Main statement: after any run, an append fails for no other reasons than these two, and
nothing that is asked of the log afterwards, or of its file when it is opened again, tells
that it was tried.
-/

set_option autoImplicit false

namespace FrameLog

open PlainLog (Permits)

namespace Handle

/-! ## Opening what a handle mirrors -/

/-- Opened with the same limit, the file shows these payloads. -/
def Shows (limit : UInt32) (file : Bytes) (payloads : List Bytes) (wasTruncated : Bool) : Prop :=
  ∀ path (settings : Settings) ceiling, settings.maxPayloadSize = limit →
    (attach path settings ceiling file).Recovers payloads wasTruncated

section

variable {handle : Handle} {file dangling : Bytes} {records : List Record}

theorem Mirrors.shows (mirrors : handle.Mirrors file records []) :
    Shows handle.settings.maxPayloadSize file (records.map Record.payload) false := by
  intro path settings ceiling same
  have acceptable := mirrors.acceptable
  rw [← same] at acceptable
  rw [mirrors.contents, List.append_nil]
  exact (attach_logFile path ceiling acceptable).1

theorem Mirrors.recovers (mirrors : handle.Mirrors file records dangling) (path : String)
    {settings : Settings} (ceiling : Option Nat)
    (same : settings.maxPayloadSize = handle.settings.maxPayloadSize) :
    ∃ wasTruncated,
      (attach path settings ceiling file).Recovers (records.map Record.payload) wasTruncated := by
  have acceptable := mirrors.acceptable
  have short := mirrors.short
  rw [← same] at acceptable
  rw [mirrors.contents]
  cases policy : settings.tailPolicy with
  | strict =>
      obtain ⟨opened, kept⟩ := attach_strict_of_short path ceiling policy acceptable short
      exact ⟨_, Attachment.recovers_restored acceptable short opened kept rfl rfl⟩
  | truncate =>
      obtain ⟨fault, stops, matching⟩ :=
        unfinished_of_short settings.maxPayloadSize short dangling.length
      rw [List.take_length] at stops
      obtain ⟨opened, kept⟩ := attach_truncate path ceiling policy acceptable stops
      have nothing : ([] : Bytes).length < FrameHeader.size := Nat.zero_lt_succ _
      have corrupted : (Scan.mk records fault).report.recordsCorrupted = 0 :=
        if_neg (ne_true_of_eq_false matching)
      exact ⟨_, Attachment.recovers_restored acceptable nothing opened
        (kept.trans (List.append_nil _).symm) rfl corrupted⟩

end

/-! ## One append -/

structure LeavesNoTrace (handle : Handle) (file : Bytes) (payloads : List Bytes) (payload : Bytes)
    (failure : Failure) (served : Served Reply) : Prop where
  /-- Positions, write offset, next index and every counter, that of the syncs included. -/
  unchanged : served.handle = handle
  silent : served.events = []
  /-- Refused, the append has not touched the file. Stopped, it leaves what is in front of
  the write offset. -/
  contents : failure = .payloadTooLarge payload.length handle.settings.maxPayloadSize ∧
      served.file = file ∨
    failure = .io .fileTooLarge ∧ served.file = file.take handle.writeOffset
  readBack : ∀ index, (handle.get served.file index).answer = (handle.get file index).answer
  allRead : (handle.readAll served.file).answer = .ok payloads
  reopened : ∀ path (settings : Settings) ceiling,
    settings.maxPayloadSize = handle.settings.maxPayloadSize →
      ∃ wasTruncated,
        (attach path settings ceiling served.file).Recovers payloads wasTruncated
  /-- The next append that is let through gets the index that this one did not get. -/
  next : ∀ ceiling (request : Request) content, request.payload? = some content →
    content.length ≤ handle.settings.maxPayloadSize.toNat →
    Permits ceiling (handle.writeOffset + (FrameHeader.size + content.length)) →
    (handle.serve ceiling served.file request).answer = .ok (.index handle.nextIndex) ∧
      Shows handle.settings.maxPayloadSize (handle.serve ceiling served.file request).file
        (payloads ++ [content]) false

structure AppendsCleanly (handle : Handle) (file : Bytes) (payloads : List Bytes)
    (ceiling : Option Nat) (payload : Bytes) (served : Served Reply) : Prop where
  refused : served.answer =
      .error (.payloadTooLarge payload.length handle.settings.maxPayloadSize) ↔
    handle.settings.maxPayloadSize.toNat < payload.length
  stopped : payload.length ≤ handle.settings.maxPayloadSize.toNat →
    (served.answer = .error (.io .fileTooLarge) ↔
      ¬ Permits ceiling (handle.writeOffset + (FrameHeader.size + payload.length)))
  accepted : payload.length ≤ handle.settings.maxPayloadSize.toNat →
    Permits ceiling (handle.writeOffset + (FrameHeader.size + payload.length)) →
    served.answer = .ok (.index handle.nextIndex)
  failed : ∀ failure, served.answer = .error failure →
    handle.LeavesNoTrace file payloads payload failure served

section

variable {handle : Handle} {file dangling : Bytes} {records : List Record}

theorem Mirrors.append_next (mirrors : handle.Mirrors file records dangling)
    (opened : handle.closed = false) {ceiling : Option Nat} {request : Request} {content : Bytes}
    (asks : request.payload? = some content)
    (within : content.length ≤ handle.settings.maxPayloadSize.toNat)
    (permitted : Permits ceiling (handle.writeOffset + (FrameHeader.size + content.length))) :
    (handle.serve ceiling file request).answer = .ok (.index handle.nextIndex) ∧
      Shows handle.settings.maxPayloadSize (handle.serve ceiling file request).file
        (records.map Record.payload ++ [content]) false := by
  have appends := mirrors.appends opened ceiling asks
  generalize handle.serve ceiling file request = served at appends ⊢
  cases appends with
  | tooLarge exceeds => exact absurd within (Nat.not_le.mpr exceeds)
  | stopped _ forbidden => exact absurd permitted forbidden
  | written counters =>
      have shows := (mirrors.appended within).shows
      rw [List.map_append] at shows
      exact ⟨by rw [mirrors.nextIndex], shows⟩

theorem Mirrors.leavesNoTrace (mirrors : handle.Mirrors file records dangling)
    (opened : handle.closed = false) {payload after behind : Bytes} {failure : Failure}
    (kept : handle.Mirrors after records behind)
    (cause : failure = .payloadTooLarge payload.length handle.settings.maxPayloadSize ∧
        after = file ∨
      failure = .io .fileTooLarge ∧ after = file.take handle.writeOffset) :
    handle.LeavesNoTrace file (records.map Record.payload) payload failure
      ⟨.error failure, handle, after, []⟩ where
  unchanged := rfl
  silent := rfl
  contents := cause
  readBack := by
    intro index
    by_cases present : 1 ≤ index ∧ index ≤ records.length
    · obtain ⟨record, found⟩ : ∃ record, records[index - 1]? = some record :=
        ⟨_, List.getElem?_eq_getElem (by omega)⟩
      rw [kept.get_of_getElem? opened present.1 found,
        mirrors.get_of_getElem? opened present.1 found]
    · rw [kept.get_of_missing opened present, mirrors.get_of_missing opened present]
      rfl
  allRead := by rw [kept.readAll_eq opened]
  reopened := fun path _ ceiling same => kept.recovers path ceiling same
  next := fun _ _ _ asks within permitted => kept.append_next opened asks within permitted

theorem Mirrors.appendsCleanly (mirrors : handle.Mirrors file records dangling)
    (opened : handle.closed = false) (ceiling : Option Nat) {request : Request} {payload : Bytes}
    (asks : request.payload? = some payload) :
    handle.AppendsCleanly file (records.map Record.payload) ceiling payload
      (handle.serve ceiling file request) := by
  have appends := mirrors.appends opened ceiling asks
  generalize handle.serve ceiling file request = served at appends ⊢
  cases appends with
  | tooLarge exceeds =>
      have without : ¬ payload.length ≤ handle.settings.maxPayloadSize.toNat :=
        Nat.not_le.mpr exceeds
      refine ⟨iff_of_true rfl exceeds, fun within => absurd within without,
        fun within => absurd within without, ?_⟩
      rintro failure ⟨⟩
      exact mirrors.leavesNoTrace opened mirrors (.inl ⟨rfl, rfl⟩)
  | stopped within forbidden =>
      refine ⟨iff_of_false ?_ (Nat.not_lt.mpr within), fun _ => iff_of_true rfl forbidden,
        fun _ permitted => absurd permitted forbidden, ?_⟩
      · rintro ⟨⟩
      · rintro failure ⟨⟩
        exact mirrors.leavesNoTrace opened mirrors.cutBack
          (.inr ⟨rfl, mirrors.take_writeOffset.symm⟩)
  | written counters within permitted =>
      refine ⟨iff_of_false ?_ (Nat.not_lt.mpr within),
        fun _ => iff_of_false ?_ (not_not_intro permitted), fun _ _ => ?_, ?_⟩
      · rintro ⟨⟩
      · rintro ⟨⟩
      · rw [mirrors.nextIndex]
      · rintro failure ⟨⟩

end

end Handle

/-- After any run on whatever file the log was opened on, an append to the open log fails
for a payload over the limit and for a ceiling below the end of its frame, and for nothing
else. A failed append leaves no trace of itself. -/
theorem failed_append_leaves_no_trace (path : String) (settings : Settings)
    (openingCeiling : Option Nat) (file : Bytes) (handle : Handle)
    (opened : (Handle.attach path settings openingCeiling file).answer = .ok handle)
    (steps : List (Option Nat × Request)) :
    let attached := Handle.attach path settings openingCeiling file
    let run := handle.runAlone attached.file steps
    run.handle.closed = false →
    ∃ found, handle.positions.offsets.map (readFrameAt settings.maxPayloadSize attached.file) =
        found.map .ok ∧
      let payloads := (acknowledged found steps run.answers).map Record.payload
      run.handle.settings = settings ∧ run.handle.nextIndex = payloads.length + 1 ∧
      ∀ ceiling (request : Request) payload, request.payload? = some payload →
        run.handle.AppendsCleanly run.file payloads ceiling payload
          (run.handle.serve ceiling run.file request) := by
  intro attached run stillOpen
  obtain ⟨same, _, found, dangling, mirrors, _⟩ := Handle.attach_eq_ok opened
  obtain ⟨kept, behind, mirrored, _⟩ := mirrors.runAlone_acknowledged steps
  have readBack := mirrors.map_readFrameAt
  rw [same] at readBack
  refine ⟨found, readBack, kept.trans same, ?_, ?_⟩
  · rw [List.length_map]
    exact mirrored.nextIndex
  · intro ceiling request payload asks
    exact mirrored.appendsCleanly stillOpen ceiling asks

/-- Three octets stand behind a log that was opened under the strict policy. The ceiling
stops an append behind the first octet of its frame. -/
theorem failed_append_leaves_no_trace_over_dangling :
    let attached := Handle.attach "log.wal" { tailPolicy := .strict } none
      (logFile [.ofPayload [1, 2]] ++ [1, 0, 0])
    ∃ handle, attached.answer = .ok handle ∧
      let run := handle.runAlone attached.file [(none, .get 1)]
      run.handle.closed = false ∧ ∃ payloads,
        run.handle.LeavesNoTrace run.file payloads [3] (.io .fileTooLarge)
          (run.handle.serve (some 20) run.file (.appendAndSync [3])) := by
  intro attached
  have acceptable : ∀ record ∈ ([[1, 2]] : List Bytes).map Record.ofPayload,
      record.Acceptable ({ tailPolicy := .strict } : Settings).maxPayloadSize :=
    Record.acceptable_map_ofPayload (by decide)
  have short : ([1, 0, 0] : Bytes).length < FrameHeader.size := by decide
  have opened := (Handle.attach_strict_of_short "log.wal" none rfl acceptable short).1
  refine ⟨_, opened, ?_⟩
  intro run
  have stillOpen : run.handle.closed = false := by decide +kernel
  obtain ⟨_, _, _, _, cleanly⟩ :=
    failed_append_leaves_no_trace _ _ _ _ _ opened [(none, .get 1)] stillOpen
  have outcome := cleanly (some 20) (.appendAndSync [3]) [3] rfl
  have stopped := (outcome.stopped (by decide +kernel)).mpr (by decide +kernel)
  exact ⟨stillOpen, _, outcome.failed _ stopped⟩

end FrameLog
