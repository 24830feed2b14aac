import FrameLog.Proofs.SharedHandle
import FrameLog.Workspace

/-!
# Writers who take turns

A workspace lets its writers finish one after the other, which is one order among many. As
long as they do nothing but append, the order cannot be told from the tally, nor from the
payloads once these are sorted.
-/

set_option autoImplicit false

namespace FrameLog

/-! ## Schedules of the same requests -/

namespace Made

theorem count_eq (made : Made) (schedule : List Made) :
    schedule.count made = (requestsOf made.writer schedule).count made.request := by
  induction schedule with
  | nil => rfl
  | cons first later ih =>
      rcases made with ⟨writer, request⟩
      rcases first with ⟨other, asked⟩
      by_cases same : other = writer
      · subst same
        simpa [requestsOf, List.count_cons] using ih
      · simpa [requestsOf, List.count_cons, same] using ih

theorem Interleaves.perm {left right : List Made} {writers : List (List Request)}
    (first : Interleaves left writers) (second : Interleaves right writers) :
    left.Perm right := by
  rw [List.perm_iff_count]
  intro made
  rw [count_eq, count_eq, first, second]

end Made

/-! ## Tallies -/

theorem Tally.growing_of_pairwise {indices : List Nat} (rising : indices.Pairwise (· < ·)) :
    growing indices = true := by
  induction indices with
  | nil => rfl
  | cons first later ih =>
      cases later with
      | nil => rfl
      | cons second later =>
          obtain ⟨ahead, behind⟩ := List.pairwise_cons.mp rising
          simp only [growing, ih behind, ahead second List.mem_cons_self, decide_true,
            Bool.and_self]

theorem Tally.assigned_ledger {ledger : Ledger}
    (appends : ∀ entry ∈ ledger, ∃ payload, entry.1.request.payload? = some payload) :
    assigned (ledger.map Prod.snd) = (landings ledger).map Prod.fst := by
  induction ledger with
  | nil => rfl
  | cons entry ledger ih =>
      obtain ⟨⟨payload, asks⟩, later⟩ := List.forall_mem_cons.mp appends
      rcases entry with ⟨⟨writer, request⟩, answer⟩
      have behind := ih later
      cases answer with
      | error failure => exact behind
      | ok reply =>
          cases reply with
          | index index =>
              rw [landings_cons_of_some (landing?_of_payload? asks writer index)]
              exact congrArg (List.cons index) behind
          | payload | payloads | done => exact behind

namespace SharedRun

variable {limit : UInt32} {earlier added : List Bytes} {writers : List (List Request)}
  {schedule : List Made} {run : Run}

theorem answers_eq (shared : SharedRun limit earlier writers schedule run added) :
    (run.ledger schedule).map Prod.snd = run.answers :=
  List.map_snd_zip (Nat.le_of_eq shared.answered)

/-- Nobody is refused when nobody closes the log. -/
theorem failures_eq_zero (shared : SharedRun limit earlier writers schedule run added)
    (appends : ∀ made ∈ schedule, ∃ payload, made.request.payload? = some payload) :
    run.answers.countP (·.toOption.isNone) = 0 := by
  rw [← shared.answers_eq, List.countP_map, List.countP_eq_zero]
  rintro ⟨made, answer⟩ member
  obtain ⟨front, behind, parted⟩ := List.append_of_mem member
  obtain ⟨payload, asks⟩ := appends made (List.of_mem_zip member).1
  have stillOpen : ¬ ClosedBy front := by
    rintro ⟨entry, among, closes⟩
    have within : entry ∈ run.ledger schedule := by
      rw [parted]
      exact List.mem_append_left _ among
    obtain ⟨other, asksToo⟩ := appends entry.1 (List.of_mem_zip within).1
    exact Request.ne_close_of_payload? asksToo closes
  obtain ⟨index, accepted⟩ :=
    (shared.settled front made answer behind parted).accepted stillOpen payload asks
  simp [accepted, Except.toOption]

theorem tally_eq (shared : SharedRun limit earlier writers schedule run added)
    (appends : ∀ made ∈ schedule, ∃ payload, made.request.payload? = some payload) :
    Tally.ofAnswers schedule run.answers =
      ⟨List.range' (earlier.length + 1) added.length, true, 0⟩ := by
  have asksAll : ∀ entry ∈ run.ledger schedule,
      ∃ payload, entry.1.request.payload? = some payload :=
    fun entry member => appends entry.1 (List.of_mem_zip member).1
  have indices : Tally.assigned run.answers =
      List.range' (earlier.length + 1) added.length := by
    rw [← shared.answers_eq, Tally.assigned_ledger asksAll, shared.indices]
  have sorted : (List.range' (earlier.length + 1) added.length).mergeSort =
      List.range' (earlier.length + 1) added.length := by
    refine List.mergeSort_of_pairwise (List.pairwise_le_range'.imp ?_)
    exact fun below => decide_eq_true below
  have ordered : ∀ writer,
      Tally.growing (Tally.assigned (Tally.answersTo writer schedule run.answers)) = true := by
    intro writer
    have own : Tally.assigned (Tally.answersTo writer schedule run.answers) =
        (landingsOf writer (run.ledger schedule)).map Prod.fst :=
      Tally.assigned_ledger fun entry member => asksAll entry (List.mem_filter.mp member).1
    rw [own]
    exact Tally.growing_of_pairwise (shared.rising writer)
  simp only [Tally.ofAnswers, indices, sorted, ordered, shared.failures_eq_zero appends,
    List.all_eq_true.mpr fun _ _ => rfl]

end SharedRun

/-! ## What the order does not change -/

theorem Request.onlyAdds_of_payload? {limit : UInt32} {request : Request} {payload : Bytes}
    (asks : request.payload? = some payload) (within : payload.length ≤ limit.toNat) :
    request.OnlyAdds limit := by
  cases request with
  | append | appendAndSync =>
      cases asks
      exact within
  | sync | truncateFrom | get | readAll | close => cases asks

def AppendsOnly (limit : UInt32) (schedule : List Made) : Prop :=
  ∀ made ∈ schedule, ∃ payload, made.request.payload? = some payload ∧
    payload.length ≤ limit.toNat

theorem Handle.Mirrors.runSchedule_appends {handle : Handle} {file : Bytes}
    {records : List Record} (mirrors : handle.Mirrors file records [])
    (opened : handle.closed = false) {writers : List (List Request)} {schedule : List Made}
    (interleaves : Made.Interleaves schedule writers)
    (appends : AppendsOnly handle.settings.maxPayloadSize schedule) :
    let run := handle.runSchedule file schedule
    let added := schedule.filterMap (·.request.payload?)
    Tally.ofAnswers schedule run.answers =
        ⟨List.range' (records.length + 1) added.length, true, 0⟩ ∧
      (run.handle.readAll run.file).answer = .ok (records.map Record.payload ++ added) := by
  intro run added
  have asks : ∀ made ∈ schedule, ∃ payload, made.request.payload? = some payload := by
    intro made member
    obtain ⟨payload, asks, _⟩ := appends made member
    exact ⟨payload, asks⟩
  obtain ⟨landed, runs⟩ := mirrors.runSchedule schedule (by
    intro made member
    obtain ⟨payload, asks, within⟩ := appends made member
    exact Request.onlyAdds_of_payload? asks within)
  rw [opened] at runs
  have stillOpen : run.handle.closed = false := by
    rw [← Bool.not_eq_true, runs.additions.shut_iff rfl]
    rintro ⟨entry, among, closes⟩
    obtain ⟨payload, asked⟩ := asks entry.1 (List.of_mem_zip among).1
    exact Request.ne_close_of_payload? asked closes
  have all : landed = added := by
    rw [runs.additions.added_of_open stillOpen, asked_eq, Run.map_fst_ledger runs.answered]
  subst all
  have tally := (runs.sharedRun interleaves).tally_eq asks
  rw [List.length_map] at tally
  refine ⟨tally, ?_⟩
  rw [runs.mirrors.readAll_eq stillOpen, List.map_append, Record.map_payload_ofPayload]

theorem mergeSort_eq_of_perm {left right : List Bytes} (perm : left.Perm right) :
    left.mergeSort = right.mergeSort := by
  have sorted : ∀ payloads : List Bytes, payloads.mergeSort.Pairwise (· ≤ ·) := by
    intro payloads
    refine (List.pairwise_mergeSort ?_ ?_ payloads).imp of_decide_eq_true
    · intro first second third below above
      exact decide_eq_true
        (List.le_trans (of_decide_eq_true below) (of_decide_eq_true above))
    · intro first second
      simpa using List.le_total first second
  have same : left.mergeSort.Perm right.mergeSort :=
    (List.mergeSort_perm left _).trans (perm.trans (List.mergeSort_perm right _).symm)
  exact same.eq_of_pairwise (fun _ _ _ _ below above => List.le_antisymm below above)
    (sorted left) (sorted right)

namespace Workspace

theorem appends_of_writersRequests {writers count : Nat} {synced : Bool} {request : Request}
    {requests : List Request} (among : requests ∈ writersRequests writers count synced)
    (own : request ∈ requests) :
    ∃ payload, request.payload? = some payload ∧ payload.length = 2 := by
  obtain ⟨writer, _, rfl⟩ := List.mem_map.mp among
  obtain ⟨number, _, rfl⟩ := List.mem_map.mp own
  cases synced with
  | false | true => exact ⟨_, rfl, rfl⟩

/-- In whatever order the writers might have appended to an open log, with nothing behind it
in its file, a workspace answers what that order would have come to. -/
theorem serveWriters_eq_any_order {workspace : Workspace} {slot : Nat} {log : OpenLog}
    {records : List Record} (held : workspace.logs.get? slot = some log)
    (opened : log.handle.closed = false)
    (mirrors : log.handle.Mirrors (workspace.disk.read log.file) records [])
    (fits : 2 ≤ log.handle.settings.maxPayloadSize.toNat) {writers count : Nat} {synced : Bool}
    {schedule : List Made}
    (interleaves : Made.Interleaves schedule (writersRequests writers count synced)) :
    let run := log.handle.runSchedule (workspace.disk.read log.file) schedule
    ∃ payloads, (run.handle.readAll run.file).answer = .ok payloads ∧
      (workspace.serveWriters slot writers count synced).answer =
        .ok (.tally (.ofAnswers schedule run.answers) payloads.mergeSort) := by
  intro run
  have appends : ∀ {order : List Made},
      Made.Interleaves order (writersRequests writers count synced) →
      AppendsOnly log.handle.settings.maxPayloadSize order := by
    intro order interleaves made member
    obtain ⟨requests, among, own⟩ := interleaves.exists_mem member
    obtain ⟨payload, asks, length⟩ := appends_of_writersRequests among own
    exact ⟨payload, asks, Nat.le_trans (Nat.le_of_eq length) fits⟩
  have inTurn := Made.inTurn_interleaves (writersRequests writers count synced)
  have added := (inTurn.perm interleaves).filterMap (·.request.payload?)
  obtain ⟨tally, read⟩ := mirrors.runSchedule_appends opened interleaves (appends interleaves)
  obtain ⟨turnsTally, turnsRead⟩ := mirrors.runSchedule_appends opened inTurn (appends inTurn)
  have same : Tally.ofAnswers schedule run.answers = _ := tally
  refine ⟨_, read, ?_⟩
  simp only [serveWriters, held, turnsTally, turnsRead, added.length_eq, Except.toOption,
    Option.getD_some]
  rw [mergeSort_eq_of_perm (added.append_left _), same]

end Workspace

end FrameLog
