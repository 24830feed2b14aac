import FrameLog.Proofs.Additions
import FrameLog.Proofs.UndisturbedRun

/-!
# Writers that share a handle

Several writers add to one log through one handle, in any order, while some of them read
and some may close it. Indices are assigned without a gap, each writer's own grow, and each
names the payload it was given for. What was added is all that the next opening finds
behind what was there before.
-/

set_option autoImplicit false

namespace FrameLog

theorem Made.Interleaves.exists_mem {schedule : List Made} {writers : List (List Request)}
    (interleaves : Interleaves schedule writers) {made : Made} (member : made ∈ schedule) :
    ∃ requests ∈ writers, made.request ∈ requests := by
  have own : made.request ∈ requestsOf made.writer schedule :=
    List.mem_map.mpr ⟨made, List.mem_filter.mpr ⟨member, decide_eq_true rfl⟩, rfl⟩
  rw [interleaves made.writer, List.getD_eq_getElem?_getD] at own
  cases found : writers[made.writer]? with
  | none =>
      rw [found] at own
      cases own
  | some requests =>
      rw [found] at own
      exact ⟨requests, List.mem_of_getElem? found, own⟩

/-! ## What one writer gets -/

def landingsOf (writer : Nat) (ledger : Ledger) : List (Nat × Bytes) :=
  landings (ledger.filter (·.1.writer = writer))

theorem landingsOf_sublist (writer : Nat) (ledger : Ledger) :
    (landingsOf writer ledger).Sublist (landings ledger) :=
  List.filter_sublist.filterMap landing?

theorem asked_of_writer {schedule : List Made} {run : Run}
    (answered : run.answers.length = schedule.length) (writer : Nat) :
    asked ((run.ledger schedule).filter (·.1.writer = writer)) =
      (Made.requestsOf writer schedule).filterMap Request.payload? :=
  calc asked ((run.ledger schedule).filter (·.1.writer = writer))
      = (Made.requestsOf writer ((run.ledger schedule).map Prod.fst)).filterMap
          Request.payload? := by
        rw [asked_eq, Made.requestsOf, List.filter_map, List.map_map]
        simp only [List.filterMap_map]
        rfl
    _ = (Made.requestsOf writer schedule).filterMap Request.payload? := by
        rw [Run.map_fst_ledger answered]

/-! ## What one request gets -/

/-- How a request is answered that comes behind `front`, on a log that held `earlier` and
will hold `added` behind it. -/
structure Settled (earlier added : List Bytes) (front : Ledger) (request : Request)
    (answer : Except Failure Reply) : Prop where
  accepted : ¬ ClosedBy front → ∀ payload, request.payload? = some payload →
    ∃ index, answer = .ok (.index index)
  refused : ClosedBy front → request ≠ .close → answer = .error .closed
  seen : ¬ ClosedBy front → request = .readAll →
    ∃ payloads, answer = .ok (.payloads payloads) ∧ earlier <+: payloads ∧
      payloads <+: earlier ++ added
  found : ∀ index payload, request = .get index → answer = .ok (.payload payload) →
    (earlier ++ added)[index - 1]? = some payload
  /-- All records that are there by then can be read. -/
  present : ¬ ClosedBy front → ∀ index, request = .get index → 1 ≤ index →
    index ≤ earlier.length + (landings front).length →
      ∃ payload, answer = .ok (.payload payload) ∧
        (earlier ++ added)[index - 1]? = some payload
  missing : ¬ ClosedBy front → ∀ index, request = .get index →
    ¬ (1 ≤ index ∧ index ≤ earlier.length + (landings front).length) →
      answer = .error (.indexOutOfRange index (earlier.length + (landings front).length))

theorem getElem?_append_longer {earlier sofar : List Bytes} {index : Nat} {payload : Bytes}
    (standing : (earlier ++ sofar)[index]? = some payload) (later : List Bytes) :
    (earlier ++ (sofar ++ later))[index]? = some payload := by
  obtain ⟨within, _⟩ := List.getElem?_eq_some_iff.mp standing
  rw [← List.append_assoc, List.getElem?_append_left within, standing]

theorem Addition.settled {earlier sofar own : List Bytes} {front : Ledger} {shut after : Bool}
    {request : Request} {answer : Except Failure Reply}
    (addition : Addition (earlier ++ sofar) shut request answer own after)
    (closing : shut = true ↔ ClosedBy front) (count : (landings front).length = sofar.length)
    (later : List Bytes) : Settled earlier (sofar ++ later) front request answer where
  accepted := by
    intro opened payload asks
    cases addition with
    | appended => exact ⟨_, rfl⟩
    | refused => exact absurd (closing.mp rfl) opened
    | synced | found | missing | allRead | closed => cases asks
  refused := by
    intro closed other
    cases addition with
    | refused => rfl
    | closed => exact absurd rfl other
    | appended | synced | found | missing | allRead => cases closing.mpr closed
  seen := by
    rintro opened rfl
    cases addition with
    | appended asks => cases asks
    | refused => exact absurd (closing.mp rfl) opened
    | allRead =>
        refine ⟨_, rfl, List.prefix_append _ _, ?_⟩
        rw [← List.append_assoc]
        exact List.prefix_append _ _
  found := by
    rintro index payload rfl answered
    cases addition with
    | appended | missing | refused => cases answered
    | found positive standing =>
        cases answered
        exact getElem?_append_longer standing later
  present := by
    rintro opened index rfl positive present
    rw [count, ← List.length_append] at present
    cases addition with
    | appended asks => cases asks
    | found _ standing => exact ⟨_, rfl, getElem?_append_longer standing later⟩
    | missing absent => exact absurd ⟨positive, present⟩ absent
    | refused => exact absurd (closing.mp rfl) opened
  missing := by
    rintro opened index rfl absent
    rw [count, ← List.length_append] at absent ⊢
    cases addition with
    | appended asks => cases asks
    | found positive standing =>
        obtain ⟨within, _⟩ := List.getElem?_eq_some_iff.mp standing
        exact absurd ⟨positive, by omega⟩ absent
    | missing => rfl
    | refused => exact absurd (closing.mp rfl) opened

theorem Additions.settled {earlier added : List Bytes} {ledger front behind : Ledger} {after : Bool}
    (additions : Additions earlier false ledger added after) {made : Made}
    {answer : Except Failure Reply} (parted : ledger = front ++ (made, answer) :: behind) :
    Settled earlier added front made.request answer := by
  obtain ⟨sofar, own, later, shut, between, rfl, leading, addition⟩ := additions.part parted
  have count : (landings front).length = sofar.length := by
    rw [← leading.payload_landings, List.length_map]
  exact addition.settled (leading.shut_iff rfl) count (own ++ later)

/-! ## What all of them get -/

/-- What comes of a run in which writers added to a log that held `earlier`. -/
structure SharedRun (limit : UInt32) (earlier : List Bytes) (writers : List (List Request))
    (schedule : List Made) (run : Run) (added : List Bytes) : Prop where
  answered : run.answers.length = schedule.length
  /-- Accepted appends are numbered on, without a gap or a repetition. -/
  indices : (landings (run.ledger schedule)).map Prod.fst =
    List.range' (earlier.length + 1) added.length
  payloads : (landings (run.ledger schedule)).map Prod.snd = added
  placed : ∀ landing ∈ landings (run.ledger schedule),
    (earlier ++ added)[landing.1 - 1]? = some landing.2
  rising : ∀ writer,
    ((landingsOf writer (run.ledger schedule)).map Prod.fst).Pairwise (· < ·)
  /-- Each writer's accepted payloads are the first that it asked to be added. -/
  inOrder : ∀ writer, (landingsOf writer (run.ledger schedule)).map Prod.snd <+:
    (writers.getD writer []).filterMap Request.payload?
  settled : ∀ front made answer behind,
    run.ledger schedule = front ++ (made, answer) :: behind →
      Settled earlier added front made.request answer
  lastIndex : run.handle.lastIndex = earlier.length + added.length
  reopened : ∀ path settings ceiling, settings.maxPayloadSize = limit →
    (Handle.attach path settings ceiling run.file).Recovers (earlier ++ added) false

theorem Handle.RunsAdditions.sharedRun {settings : Settings} {records : List Record}
    {writers : List (List Request)} {schedule : List Made} {run : Run} {added : List Bytes}
    (runs : RunsAdditions settings records false schedule run added)
    (interleaves : Made.Interleaves schedule writers) :
    SharedRun settings.maxPayloadSize (records.map Record.payload) writers schedule run
      added := by
  obtain ⟨answered, additions, mirrors, kept⟩ := runs
  have payloads : (records ++ added.map Record.ofPayload).map Record.payload =
      records.map Record.payload ++ added := by
    rw [List.map_append, Record.map_payload_ofPayload]
  constructor
  · exact answered
  · exact additions.index_landings
  · exact additions.payload_landings
  · exact additions.getElem?_of_mem_landings
  · intro writer
    have rising := List.pairwise_lt_range' (s := (records.map Record.payload).length + 1)
      (n := added.length)
    rw [← additions.index_landings] at rising
    exact rising.sublist ((landingsOf_sublist writer _).map _)
  · intro writer
    have leading := additions.payload_landings_prefix (·.writer = writer)
    rw [asked_of_writer answered, interleaves writer] at leading
    exact leading
  · intro front made answer behind parted
    exact additions.settled parted
  · rw [lastIndex, Positions.lastIndex, ← Handle.length, mirrors.length_eq]
    simp
  · intro path others ceiling same
    have acceptable := mirrors.acceptable
    rw [kept, ← same] at acceptable
    rw [mirrors.contents, List.append_nil, ← payloads]
    exact (attach_logFile path ceiling acceptable).1

/-- Whatever a handle was opened on and whatever was requested since, as long as it is open
and its file ends where the next record goes: writers may share it in any order. -/
theorem writers_share_one_log (path : String) (settings : Settings)
    (openingCeiling : Option Nat) (file : Bytes) (handle : Handle)
    (opened : (Handle.attach path settings openingCeiling file).answer = .ok handle)
    (steps : List (Option Nat × Request)) :
    let start := handle.runAlone (Handle.attach path settings openingCeiling file).file steps
    start.handle.closed = false → start.file.length = start.handle.writeOffset →
    ∃ earlier, (start.handle.readAll start.file).answer = .ok earlier ∧
      ∀ writers schedule, Made.Interleaves schedule writers →
        (∀ requests ∈ writers, ∀ request ∈ requests,
          request.OnlyAdds settings.maxPayloadSize) →
        ∃ added, SharedRun settings.maxPayloadSize earlier writers schedule
          (start.handle.runSchedule start.file schedule) added := by
  intro start stillOpen whole
  obtain ⟨openedWith, _, _, _, attached, _⟩ := Handle.attach_eq_ok opened
  obtain ⟨kept, records, dangling, mirrors, _⟩ := attached.runAlone steps
  have same : start.handle.settings = settings := kept.trans openedWith
  have nothing : dangling = [] := by
    have length := mirrors.length_file.symm.trans whole
    exact List.length_eq_zero_iff.mp (Nat.add_eq_left.mp length)
  subst nothing
  refine ⟨records.map Record.payload, by rw [mirrors.readAll_eq stillOpen], ?_⟩
  intro writers schedule interleaves adds
  obtain ⟨added, runs⟩ := mirrors.runSchedule schedule (by
    intro made member
    obtain ⟨requests, among, own⟩ := interleaves.exists_mem member
    rw [same]
    exact adds requests among made.request own)
  rw [stillOpen, same] at runs
  exact ⟨added, runs.sharedRun interleaves⟩

/-- The second of two writers closes the log before the first has made its last request. -/
theorem writers_share_one_log_until_closed :
    let opening := Handle.attach "log.wal" {} none []
    let writers : List (List Request) :=
      [[.append [1], .readAll, .append [3]], [.appendAndSync [2], .close]]
    let schedule : List Made :=
      [⟨0, .append [1]⟩, ⟨1, .appendAndSync [2]⟩, ⟨0, .readAll⟩, ⟨1, .close⟩, ⟨0, .append [3]⟩]
    ∃ handle earlier, opening.answer = .ok handle ∧
      let start := handle.runAlone opening.file [(none, .append [9])]
      SharedRun ({} : Settings).maxPayloadSize earlier writers schedule
        (start.handle.runSchedule start.file schedule) [[1], [2]] := by
  intro opening writers schedule
  have interleaves : Made.Interleaves schedule writers := by
    intro writer
    match writer with
    | 0 | 1 | _ + 2 => rfl
  have adds : ∀ requests ∈ writers, ∀ request ∈ requests,
      request.OnlyAdds ({} : Settings).maxPayloadSize := by decide
  obtain ⟨earlier, _, shared⟩ := writers_share_one_log "log.wal" {} none [] _ rfl
    [(none, .append [9])] (by decide +kernel) (by decide +kernel)
  obtain ⟨added, run⟩ := shared writers schedule interleaves adds
  have first : added = [[1], [2]] := run.payloads.symm.trans (by decide +kernel)
  rw [first] at run
  exact ⟨_, earlier, rfl, run⟩

end FrameLog
