import FrameLog.Handle.Writers
import FrameLog.Proofs.Mirror

/-!
# Requests that only add to a log

As long as nobody takes records away and the file has room, a log holds what it held and
what was added to it since, and every answer can be read off its payloads. `Addition` lists
what one request comes to, `Additions` what a ledger of requests and answers comes to.

Main statement: whatever the order of such requests, a handle that mirrors a whole log
answers them by such a ledger, and mirrors the longer log afterwards.
-/

set_option autoImplicit false

namespace FrameLog

def Request.payload? : Request → Option Bytes
  | append payload | appendAndSync payload => some payload
  | _ => none

theorem Request.ne_close_of_payload? {request : Request} {payload : Bytes}
    (asks : request.payload? = some payload) : request ≠ .close := by
  rintro rfl
  cases asks

/-- Nothing is taken away, and nothing added that is too large. -/
def Request.OnlyAdds (limit : UInt32) : Request → Prop
  | append payload | appendAndSync payload => payload.length ≤ limit.toNat
  | truncateFrom _ => False
  | sync | get _ | readAll | close => True

instance (limit : UInt32) (request : Request) : Decidable (request.OnlyAdds limit) :=
  match request with
  | .append _ | .appendAndSync _ => inferInstanceAs (Decidable (_ ≤ _))
  | .truncateFrom _ => inferInstanceAs (Decidable False)
  | .sync | .get _ | .readAll | .close => inferInstanceAs (Decidable True)

theorem Request.OnlyAdds.within {limit : UInt32} {request : Request}
    (adds : request.OnlyAdds limit) {payload : Bytes} (asks : request.payload? = some payload) :
    payload.length ≤ limit.toNat := by
  cases request with
  | append | appendAndSync =>
      cases asks
      exact adds
  | sync | truncateFrom | get | readAll | close => cases asks

/-! ## One request -/

/-- What a request comes to on a log with these payloads: the answer, what it adds, and
whether the log is closed before and after it. -/
inductive Addition (payloads : List Bytes) :
    Bool → Request → Except Failure Reply → List Bytes → Bool → Prop where
  | appended {request : Request} {payload : Bytes} : request.payload? = some payload →
      Addition payloads false request (.ok (.index (payloads.length + 1))) [payload] false
  | synced : Addition payloads false .sync (.ok .done) [] false
  | found {index : Nat} {payload : Bytes} : 1 ≤ index → payloads[index - 1]? = some payload →
      Addition payloads false (.get index) (.ok (.payload payload)) [] false
  | missing {index : Nat} : ¬ (1 ≤ index ∧ index ≤ payloads.length) →
      Addition payloads false (.get index) (.error (.indexOutOfRange index payloads.length)) []
        false
  | allRead : Addition payloads false .readAll (.ok (.payloads payloads)) [] false
  | closed {before : Bool} : Addition payloads before .close (.ok .done) [] true
  | refused {request : Request} : request ≠ .close →
      Addition payloads true request (.error .closed) [] true

/-- The sync behind an append changes nothing in what it comes to. -/
theorem Addition.appendAndSync {payloads added : List Bytes} {payload : Bytes} {shut after : Bool}
    {answer : Except Failure Reply}
    (addition : Addition payloads shut (.append payload) answer added after) :
    Addition payloads shut (.appendAndSync payload) answer added after := by
  cases addition with
  | appended asked => exact .appended asked
  | refused other => exact .refused Request.noConfusion

namespace Handle

structure ServesAddition (settings : Settings) (records : List Record) (shut : Bool)
    (request : Request) (served : Served Reply) (added : List Bytes) (after : Bool) : Prop where
  addition : Addition (records.map Record.payload) shut request served.answer added after
  closed : served.handle.closed = after
  mirrors : served.handle.Mirrors served.file (records ++ added.map .ofPayload) []
  settings : served.handle.settings = settings

namespace Mirrors

variable {handle : Handle} {file : Bytes} {records : List Record}

theorem unextended (mirrors : handle.Mirrors file records []) :
    handle.Mirrors file (records ++ ([] : List Bytes).map .ofPayload) [] := by
  rwa [List.map_nil, List.append_nil]

theorem servesAddition_append (mirrors : handle.Mirrors file records [])
    (opened : handle.closed = false) {payload : Bytes}
    (within : payload.length ≤ handle.settings.maxPayloadSize.toNat) :
    ServesAddition handle.settings records false (.append payload)
      (handle.serve none file (.append payload)) [payload] false := by
  have count : handle.length = (records.map Record.payload).length := by
    rw [mirrors.length_eq, List.length_map]
  rw [serve, append_of_permits opened within (PlainLog.permits_none _), count]
  exact ⟨.appended rfl, opened, mirrors.appended within, rfl⟩

theorem servesAddition_appendAndSync (mirrors : handle.Mirrors file records [])
    (opened : handle.closed = false) {payload : Bytes}
    (within : payload.length ≤ handle.settings.maxPayloadSize.toNat) :
    ServesAddition handle.settings records false (.appendAndSync payload)
      (handle.serve none file (.appendAndSync payload)) [payload] false := by
  obtain ⟨addition, closed, mirrored, settings⟩ := mirrors.servesAddition_append opened within
  obtain ⟨counters, served⟩ := appendAndSync_eq none handle file payload
  rw [serve, served]
  exact ⟨addition.appendAndSync, closed, mirrored.recounted _ counters, settings⟩

theorem servesAddition_get (mirrors : handle.Mirrors file records [])
    (opened : handle.closed = false) (index : Nat) :
    ServesAddition handle.settings records false (.get index)
      (handle.serve none file (.get index)) [] false := by
  have count : (records.map Record.payload).length = records.length := List.length_map _
  rw [serve]
  by_cases present : 1 ≤ index ∧ index ≤ records.length
  · obtain ⟨record, standing⟩ : ∃ record, records[index - 1]? = some record :=
      ⟨_, List.getElem?_eq_getElem (by omega)⟩
    have payload : (records.map Record.payload)[index - 1]? = some record.payload := by
      rw [List.getElem?_map, standing]
      rfl
    rw [mirrors.get_of_getElem? opened present.1 standing]
    exact ⟨.found present.1 payload, opened, mirrors.unextended, rfl⟩
  · rw [mirrors.get_of_missing opened present, ← count]
    rw [← count] at present
    exact ⟨.missing present, opened, mirrors.unextended, rfl⟩

theorem servesAddition (mirrors : handle.Mirrors file records []) {request : Request}
    (adds : request.OnlyAdds handle.settings.maxPayloadSize) :
    ∃ added after, ServesAddition handle.settings records handle.closed request
      (handle.serve none file request) added after := by
  have kept := mirrors.unextended
  cases shut : handle.closed with
  | true =>
      by_cases closing : request = .close
      · rw [closing, serve_close_of_closed shut]
        exact ⟨[], true, .closed, shut, kept, rfl⟩
      · rw [serve_of_closed shut closing]
        exact ⟨[], true, .refused closing, shut, kept, rfl⟩
  | false =>
      cases request with
      | append payload => exact ⟨_, _, mirrors.servesAddition_append shut adds⟩
      | appendAndSync payload => exact ⟨_, _, mirrors.servesAddition_appendAndSync shut adds⟩
      | truncateFrom index => exact adds.elim
      | get index => exact ⟨_, _, mirrors.servesAddition_get shut index⟩
      | sync =>
          rw [serve_sync_of_opened shut]
          exact ⟨[], false, .synced, shut, kept.recounted _ _, rfl⟩
      | readAll =>
          rw [serve, mirrors.readAll_eq shut]
          exact ⟨[], false, .allRead, shut, kept, rfl⟩
      | close =>
          rw [serve_close_of_opened shut]
          exact ⟨[], true, .closed, rfl, kept.recounted _ _, rfl⟩

end Mirrors

end Handle

/-! ## Ledgers -/

/-- Requests of the writers, each with its answer, in the order of service. -/
abbrev Ledger := List (Made × Except Failure Reply)

/-- What the entries of a ledger come to, one after the other. -/
inductive Additions : List Bytes → Bool → Ledger → List Bytes → Bool → Prop where
  | nil {payloads : List Bytes} {shut : Bool} : Additions payloads shut [] [] shut
  | cons {payloads own later : List Bytes} {before between after : Bool} {writer : Nat}
      {request : Request} {answer : Except Failure Reply} {ledger : Ledger} :
      Addition payloads before request answer own between →
      Additions (payloads ++ own) between ledger later after →
      Additions payloads before ((⟨writer, request⟩, answer) :: ledger) (own ++ later) after

def asked (ledger : Ledger) : List Bytes :=
  ledger.filterMap fun entry => entry.1.request.payload?

theorem asked_eq (ledger : Ledger) :
    asked ledger =
      (ledger.map Prod.fst).filterMap fun made => made.request.payload? := by
  rw [asked, List.filterMap_map]
  rfl

/-- The record that an entry says was added: its index and its payload. -/
def landing? (entry : Made × Except Failure Reply) : Option (Nat × Bytes) :=
  match entry.2 with
  | .ok (.index index) => entry.1.request.payload?.map fun payload => (index, payload)
  | _ => none

def landings (ledger : Ledger) : List (Nat × Bytes) := ledger.filterMap landing?

def ClosedBy (ledger : Ledger) : Prop := ∃ entry ∈ ledger, entry.1.request = .close

section

variable {payloads own : List Bytes} {before between : Bool} {writer : Nat} {request : Request}
  {answer : Except Failure Reply}

theorem asked_cons_of_some {payload : Bytes} (asks : request.payload? = some payload)
    (answer : Except Failure Reply) (ledger : Ledger) :
    asked ((⟨writer, request⟩, answer) :: ledger) = payload :: asked ledger :=
  List.filterMap_cons_some asks

theorem landings_cons_of_none {entry : Made × Except Failure Reply} (fails : landing? entry = none)
    (ledger : Ledger) : landings (entry :: ledger) = landings ledger :=
  List.filterMap_cons_none fails

theorem landings_cons_of_some {entry : Made × Except Failure Reply} {landing : Nat × Bytes}
    (lands : landing? entry = some landing) (ledger : Ledger) :
    landings (entry :: ledger) = landing :: landings ledger :=
  List.filterMap_cons_some lands

theorem landing?_of_payload? {payload : Bytes} (asks : request.payload? = some payload)
    (writer index : Nat) :
    landing? (⟨writer, request⟩, .ok (.index index)) = some (index, payload) := by
  simp only [landing?, asks, Option.map_some]

/-- One request adds nothing, or the payload that it says it does. -/
theorem Addition.nothing_or_landing
    (addition : Addition payloads before request answer own between) (writer : Nat) :
    own = [] ∧ landing? (⟨writer, request⟩, answer) = none ∨
      ∃ payload, own = [payload] ∧
        landing? (⟨writer, request⟩, answer) = some (payloads.length + 1, payload) := by
  cases addition with
  | appended asks => exact .inr ⟨_, rfl, landing?_of_payload? asks writer _⟩
  | synced | found | missing | allRead | closed | refused => exact .inl ⟨rfl, rfl⟩

theorem Addition.of_shut (addition : Addition payloads true request answer own between)
    (writer : Nat) : between = true ∧ landing? (⟨writer, request⟩, answer) = none := by
  cases addition with
  | closed | refused => exact ⟨rfl, rfl⟩

end

namespace Additions

variable {payloads added : List Bytes} {before after : Bool} {ledger : Ledger}

/-- Nothing lands in a log that is closed, and it stays closed. -/
theorem of_shut (additions : Additions payloads before ledger added after)
    (shut : before = true) : after = true ∧ ∀ entry ∈ ledger, landing? entry = none := by
  induction additions with
  | nil => exact ⟨shut, by simp⟩
  | @cons payloads own later before between after writer request answer ledger first rest ih =>
      subst shut
      obtain ⟨stays, fails⟩ := first.of_shut writer
      obtain ⟨closed, failing⟩ := ih stays
      refine ⟨closed, ?_⟩
      intro entry member
      rcases List.mem_cons.mp member with rfl | member
      · exact fails
      · exact failing entry member

theorem landings_of_shut (additions : Additions payloads true ledger added after)
    {part : Ledger} (within : part ⊆ ledger) : landings part = [] := by
  obtain ⟨_, failing⟩ := additions.of_shut rfl
  exact List.filterMap_eq_nil_iff.mpr fun entry member => failing entry (within member)

/-- A log is closed by a request to close it, and by nothing else. -/
theorem shut_iff (additions : Additions payloads before ledger added after)
    (opened : before = false) : after = true ↔ ClosedBy ledger := by
  induction additions with
  | nil => simp [opened, ClosedBy]
  | cons first rest ih =>
      cases first with
      | closed => simp [(rest.of_shut rfl).1, ClosedBy]
      | refused => cases opened
      | synced | found | missing | allRead => simpa [ClosedBy] using ih rfl
      | appended asks =>
          have other : _ ≠ Request.close := Request.ne_close_of_payload? asks
          simpa [ClosedBy, other] using ih rfl

/-! ## What lands, and where -/

theorem index_landings (additions : Additions payloads before ledger added after) :
    (landings ledger).map Prod.fst = List.range' (payloads.length + 1) added.length := by
  induction additions with
  | nil => rfl
  | @cons payloads own later before between after writer request answer ledger first rest ih =>
      obtain ⟨rfl, fails⟩ | ⟨payload, rfl, lands⟩ := first.nothing_or_landing writer
      · rw [landings_cons_of_none fails, ih, List.append_nil, List.nil_append]
      · rw [landings_cons_of_some lands, List.map_cons, ih, List.length_append]
        rfl

theorem payload_landings (additions : Additions payloads before ledger added after) :
    (landings ledger).map Prod.snd = added := by
  induction additions with
  | nil => rfl
  | @cons payloads own later before between after writer request answer ledger first rest ih =>
      obtain ⟨rfl, fails⟩ | ⟨payload, rfl, lands⟩ := first.nothing_or_landing writer
      · rw [landings_cons_of_none fails, ih, List.nil_append]
      · rw [landings_cons_of_some lands, List.map_cons, ih]
        rfl

theorem getElem?_of_mem_landings (additions : Additions payloads before ledger added after) :
    ∀ landing ∈ landings ledger, (payloads ++ added)[landing.1 - 1]? = some landing.2 := by
  induction additions with
  | nil => simp [landings]
  | @cons payloads own later before between after writer request answer ledger first rest ih =>
      rw [← List.append_assoc]
      obtain ⟨rfl, fails⟩ | ⟨payload, rfl, lands⟩ := first.nothing_or_landing writer
      · rwa [landings_cons_of_none fails]
      · rw [landings_cons_of_some lands]
        intro landing member
        rcases List.mem_cons.mp member with rfl | member
        · simp
        · exact ih landing member

theorem added_of_open (additions : Additions payloads before ledger added after)
    (opened : after = false) : added = asked ledger := by
  induction additions with
  | nil => rfl
  | cons first rest ih =>
      cases first with
      | appended asks =>
          rw [asked_cons_of_some asks, ih opened]
          rfl
      | synced | found | missing | allRead => exact ih opened
      | closed | refused =>
          rw [(rest.of_shut rfl).1] at opened
          cases opened

/-- Of what some of the writers ask for, the first payloads land, in order. -/
theorem payload_landings_prefix (additions : Additions payloads before ledger added after)
    (chosen : Made → Bool) :
    (landings (ledger.filter (chosen ·.1))).map Prod.snd <+:
      asked (ledger.filter (chosen ·.1)) := by
  induction additions with
  | nil => exact List.prefix_refl _
  | @cons payloads own later before between after writer request answer ledger first rest ih =>
      cases belongs : chosen ⟨writer, request⟩ with
      | false => rwa [List.filter_cons_of_neg (by simpa using belongs)]
      | true =>
          rw [List.filter_cons_of_pos (by simpa using belongs)]
          cases first with
          | appended asks =>
              rw [landings_cons_of_some (landing?_of_payload? asks writer _),
                asked_cons_of_some asks]
              exact List.cons_prefix_cons.mpr ⟨rfl, ih⟩
          | synced | found | missing | allRead | closed => exact ih
          | refused =>
              rw [landings_cons_of_none rfl, rest.landings_of_shut List.filter_sublist.subset]
              exact List.nil_prefix

/-! ## One entry among the others -/

/-- Where a ledger is parted at an entry, the entry is what came of its request on the log
as the entries in front of it left it. -/
theorem part (additions : Additions payloads before ledger added after)
    {front behind : Ledger} {made : Made} {answer : Except Failure Reply}
    (parted : ledger = front ++ (made, answer) :: behind) :
    ∃ earlier own later shut between, added = earlier ++ (own ++ later) ∧
      Additions payloads before front earlier shut ∧
      Addition (payloads ++ earlier) shut made.request answer own between := by
  induction additions generalizing front with
  | nil => cases front <;> cases parted
  | @cons payloads own later before between after writer request answer ledger first rest ih =>
      cases front with
      | nil =>
          cases parted
          refine ⟨[], own, later, before, between, rfl, .nil, ?_⟩
          rwa [List.append_nil]
      | cons entry front =>
          obtain ⟨rfl, remaining⟩ := List.cons.inj parted
          obtain ⟨earlier, next, last, shut, onward, rfl, leading, addition⟩ := ih remaining
          refine ⟨own ++ earlier, next, last, shut, onward, ?_, .cons first leading, ?_⟩
          · rw [List.append_assoc]
          · rwa [← List.append_assoc]

end Additions

/-! ## Schedules -/

/-- The requests of a schedule, with what a run answered them. -/
def Run.ledger (run : Run) (schedule : List Made) : Ledger := schedule.zip run.answers

theorem Run.map_fst_ledger {run : Run} {schedule : List Made}
    (answered : run.answers.length = schedule.length) :
    (run.ledger schedule).map Prod.fst = schedule :=
  List.map_fst_zip (Nat.le_of_eq answered.symm)

namespace Handle

variable {handle : Handle} {file : Bytes} {records : List Record}

theorem runSchedule_cons (handle : Handle) (file : Bytes) (made : Made) (schedule : List Made) :
    handle.runSchedule file (made :: schedule) =
      ((handle.serve none file made.request).handle.runSchedule
        (handle.serve none file made.request).file schedule).after
          (handle.serve none file made.request) := rfl

structure RunsAdditions (settings : Settings) (records : List Record) (shut : Bool)
    (schedule : List Made) (run : Run) (added : List Bytes) : Prop where
  answered : run.answers.length = schedule.length
  additions : Additions (records.map Record.payload) shut (run.ledger schedule) added
    run.handle.closed
  mirrors : run.handle.Mirrors run.file (records ++ added.map .ofPayload) []
  settings : run.handle.settings = settings

theorem Mirrors.runSchedule (mirrors : handle.Mirrors file records []) (schedule : List Made)
    (adds : ∀ made ∈ schedule, made.request.OnlyAdds handle.settings.maxPayloadSize) :
    ∃ added, RunsAdditions handle.settings records handle.closed schedule
      (handle.runSchedule file schedule) added := by
  induction schedule generalizing handle file records with
  | nil => exact ⟨[], rfl, .nil, mirrors.unextended, rfl⟩
  | cons made schedule ih =>
      obtain ⟨own, after, addition, closed, served, kept⟩ :=
        mirrors.servesAddition (adds made List.mem_cons_self)
      obtain ⟨later, answered, additions, mirrored, settings⟩ := ih served (by
        rw [kept]
        exact fun made member => adds made (List.mem_cons_of_mem _ member))
      rw [runSchedule_cons]
      refine ⟨own ++ later, ?_, ?_, ?_, settings.trans kept⟩
      · exact congrArg Nat.succ answered
      · have payloads : (records ++ own.map Record.ofPayload).map Record.payload =
            records.map Record.payload ++ own := by
          rw [List.map_append, Record.map_payload_ofPayload]
        rw [payloads, closed] at additions
        exact .cons addition additions
      · rw [List.map_append, ← List.append_assoc]
        exact mirrored

end Handle

end FrameLog
