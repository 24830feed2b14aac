import FrameLog.Proofs.Streaming
import FrameLog.Proofs.UndisturbedRun

/-!
# Following a log that grows

A cursor is asked for the next record again and again while its file grows, by pieces that
may end inside a frame. What the file holds is always a leading part of a log, so where the
cursor stands there is a whole frame, the beginning of one or nothing, and never a frame
with a wrong checksum.

The invariant is that the cursor stands behind just the records that it has returned. A
read that returns none keeps the cursor where it is, so nothing is lost by asking early.
-/

set_option autoImplicit false

namespace FrameLog

/-! ## Looking and growing -/

inductive FollowStep where
  | grow (chunk : Bytes)
  | look
  deriving DecidableEq, Repr

def grown : List FollowStep → Bytes
  | [] => []
  | .grow chunk :: steps => chunk ++ grown steps
  | .look :: steps => grown steps

/-- One read of a cursor, with what the file held at that time. -/
structure Look where
  file : Bytes
  before : Cursor
  answer : Except Failure (Option Indexed)
  after : Cursor

namespace Look

def found? (look : Look) : Option Indexed :=
  match look.answer with
  | .ok found => found
  | .error _ => none

theorem found?_eq_some_iff {look : Look} {indexed : Indexed} :
    look.found? = some indexed ↔ look.answer = .ok (some indexed) := by
  rcases look with ⟨file, before, answer, after⟩
  cases answer with
  | ok found => simp [found?]
  | error failure => simp [found?]

def found (looks : List Look) : List Indexed := looks.flatMap fun look => look.found?.toList

theorem found_cons (look : Look) (looks : List Look) :
    found (look :: looks) = look.found?.toList ++ found looks := rfl

end Look

def Cursor.look (cursor : Cursor) (file : Bytes) : Look :=
  ⟨file, cursor, (cursor.next file).1, (cursor.next file).2⟩

def Cursor.follow (cursor : Cursor) (file : Bytes) : List FollowStep → List Look
  | [] => []
  | .grow chunk :: steps => cursor.follow (file ++ chunk) steps
  | .look :: steps => cursor.look file :: (cursor.look file).after.follow file steps

/-! ## Where a cursor stands -/

/-- The cursor has returned this many of the records, and the file is a leading part of
the log that holds them all. -/
structure Cursor.Follows (cursor : Cursor) (limit : UInt32) (records : List Record)
    (file : Bytes) (taken : Nat) : Prop where
  stands : cursor = ⟨FileHeader.size + framesSize (records.take taken), taken + 1, limit⟩
  leading : file <+: logFile records

/-- What a read comes to while the file is a leading part of a log. -/
inductive Cursor.Sees (cursor : Cursor) (records : List Record) (file : Bytes) (taken : Nat) :
    Except Failure (Option Indexed) × Cursor → Prop where
  | found {record : Record} :
      records[taken]? = some record → cursor.position + record.frameSize ≤ file.length →
      Sees cursor records file taken
        (.ok (some ⟨cursor.nextIndex, record⟩), cursor.advance record)
  | ended :
      file.drop cursor.position = [] → Sees cursor records file taken (.ok none, cursor)
  | unfinished {record : Record} {detail : Corruption} :
      records[taken]? = some record → file.length < cursor.position + record.frameSize →
      file.drop cursor.position ≠ [] →
      Sees cursor records file taken (.error (.corrupted detail), cursor)

namespace Cursor.Sees

variable {cursor : Cursor} {records : List Record} {file : Bytes} {taken : Nat}
  {outcome : Except Failure (Option Indexed) × Cursor}

theorem finds (sees : cursor.Sees records file taken outcome) {indexed : Indexed}
    (answered : outcome.1 = .ok (some indexed)) :
    indexed.index = cursor.nextIndex ∧ records[taken]? = some indexed.record ∧
      cursor.position + indexed.record.frameSize ≤ file.length ∧
      outcome.2 = cursor.advance indexed.record := by
  cases sees with
  | found coming reaches =>
      cases answered
      exact ⟨rfl, coming, reaches, rfl⟩
  | ended | unfinished => cases answered

theorem found_of_whole (sees : cursor.Sees records file taken outcome) {record : Record}
    (coming : records[taken]? = some record)
    (whole : cursor.position + record.frameSize ≤ file.length) :
    ∃ indexed, outcome.1 = .ok (some indexed) := by
  cases sees with
  | found => exact ⟨_, rfl⟩
  | ended nothing =>
      have positive := record.frameSize_pos
      have short : file.length ≤ cursor.position := List.drop_eq_nil_iff.mp nothing
      omega
  | unfinished again breaks =>
      obtain rfl := Option.some.inj (coming.symm.trans again)
      exact absurd whole (Nat.not_le.mpr breaks)

theorem ends_iff (sees : cursor.Sees records file taken outcome) :
    outcome.1 = .ok none ↔ file.drop cursor.position = [] := by
  cases sees with
  | @found record coming reaches =>
      refine iff_of_false (fun same => by cases same) ?_
      intro nothing
      have positive := record.frameSize_pos
      have short : file.length ≤ cursor.position := List.drop_eq_nil_iff.mp nothing
      omega
  | ended nothing => exact iff_of_true rfl nothing
  | unfinished _ _ something => exact iff_of_false (fun same => by cases same) something

theorem fails (sees : cursor.Sees records file taken outcome) {failure : Failure}
    (failed : outcome.1 = .error failure) : ∃ detail, failure = .corrupted detail := by
  cases sees with
  | unfinished =>
      cases failed
      exact ⟨_, rfl⟩
  | found | ended => cases failed

theorem keeps (sees : cursor.Sees records file taken outcome)
    (missing : ∀ indexed, outcome.1 ≠ .ok (some indexed)) : outcome.2 = cursor := by
  cases sees with
  | found => exact absurd rfl (missing _)
  | ended | unfinished => rfl

end Cursor.Sees

namespace Cursor.Follows

variable {cursor : Cursor} {limit : UInt32} {records : List Record} {file : Bytes}
  {taken : Nat}

theorem grow (follows : cursor.Follows limit records file taken) {chunk : Bytes}
    (leading : file ++ chunk <+: logFile records) :
    cursor.Follows limit records (file ++ chunk) taken :=
  ⟨follows.stands, leading⟩

/-- What stands in front of the cursor is a leading part of the frames still to come. -/
theorem ahead (follows : cursor.Follows limit records file taken) :
    file.drop cursor.position =
      (frames (records.drop taken)).take (file.length - cursor.position) := by
  have further := drop_frameOffset (drop_size_whole_logFile records) taken
  rw [List.append_nil] at further
  have position : cursor.position = FileHeader.size + framesSize (records.take taken) := by
    rw [follows.stands]
  rw [← further, ← position, ← List.drop_take, ← List.prefix_iff_eq_take.mp follows.leading]

theorem sees (follows : cursor.Follows limit records file taken)
    (acceptable : ∀ record ∈ records, record.Acceptable limit) :
    cursor.Sees records file taken (cursor.next file) := by
  have ahead := follows.ahead
  have limited : cursor.maxPayloadSize = limit := by rw [follows.stands]
  cases coming : records[taken]? with
  | none =>
      have nothing : file.drop cursor.position = [] := by
        rw [ahead, List.drop_eq_nil_of_le (List.getElem?_eq_none_iff.mp coming)]
        exact List.take_nil
      rw [Cursor.next_of_absent (readFrame_eq_absent_iff.mpr nothing)]
      exact .ended nothing
  | some record =>
      obtain ⟨present, rfl⟩ := List.getElem?_eq_some_iff.mp coming
      have accepted := acceptable _ (List.mem_of_getElem? coming)
      have positive := records[taken].frameSize_pos
      rw [List.drop_eq_getElem_cons present, frames_cons] at ahead
      by_cases whole : records[taken].frameSize ≤ file.length - cursor.position
      · have read : readFrameAt cursor.maxPayloadSize file cursor.position = .ok records[taken] := by
          rw [readFrameAt, limited, ahead, readFrame_take_of_whole accepted whole]
        rw [Cursor.next_of_ok read]
        exact .found coming (by omega)
      · obtain ⟨fault, stops, matching⟩ := readFrame_take_of_broken accepted.within
          (Nat.not_le.mp whole) (frames (records.drop (taken + 1)))
        rw [← ahead, ← limited] at stops
        cases fault with
        | absent =>
            rw [Cursor.next_of_absent stops]
            exact .ended (readFrame_eq_absent_iff.mp stops)
        | mismatch => cases matching
        | partialHeader | oversized | torn =>
            rw [Cursor.next_of_ending stops rfl]
            refine .unfinished coming (by omega) ?_
            intro nothing
            rw [readFrame_eq_absent_iff.mpr nothing] at stops
            cases stops

theorem after_look (follows : cursor.Follows limit records file taken)
    (acceptable : ∀ record ∈ records, record.Acceptable limit) :
    (cursor.look file).after.Follows limit records file
      (taken + (cursor.look file).found?.toList.length) := by
  have sees := follows.sees acceptable
  unfold Cursor.look Look.found?
  generalize cursor.next file = outcome at sees ⊢
  cases sees with
  | @found record coming reaches =>
      refine ⟨?_, follows.leading⟩
      rw [follows.stands, Cursor.advance]
      simp only [Option.toList_some, List.length_singleton, framesSize_take_succ coming,
        Nat.add_assoc]
  | ended | unfinished => exact follows

end Cursor.Follows

/-! ## What every read answers -/

/-- A read behind this many of the records returns the next one just if it is whole in the
file, none just if nothing is left of the file, and fails otherwise, by a frame that is not
whole. Only a record moves the cursor on. -/
structure Look.Exact (look : Look) (records : List Record) (taken : Nat) : Prop where
  nextIndex : look.before.nextIndex = taken + 1
  position : look.before.position = FileHeader.size + framesSize (records.take taken)
  finds_iff : (∃ indexed, look.answer = .ok (some indexed)) ↔
    ∃ record, records[taken]? = some record ∧
      look.before.position + record.frameSize ≤ look.file.length
  finds : ∀ indexed, look.answer = .ok (some indexed) →
    indexed.index = taken + 1 ∧ records[taken]? = some indexed.record ∧
      look.after = look.before.advance indexed.record
  ends_iff : look.answer = .ok none ↔ look.file.drop look.before.position = []
  fails : ∀ failure, look.answer = .error failure → ∃ detail, failure = .corrupted detail
  keeps : look.found? = none → look.after = look.before

namespace Cursor.Follows

variable {cursor : Cursor} {limit : UInt32} {records : List Record} {file : Bytes}
  {taken : Nat}

theorem exact_look (follows : cursor.Follows limit records file taken)
    (acceptable : ∀ record ∈ records, record.Acceptable limit) :
    (cursor.look file).Exact records taken := by
  have sees := follows.sees acceptable
  have nextIndex : cursor.nextIndex = taken + 1 := by rw [follows.stands]
  have position : cursor.position = FileHeader.size + framesSize (records.take taken) := by
    rw [follows.stands]
  refine ⟨nextIndex, position, ?_, ?_, sees.ends_iff, fun failure => sees.fails, ?_⟩
  · constructor
    · rintro ⟨indexed, answered⟩
      obtain ⟨_, coming, reaches, _⟩ := sees.finds answered
      exact ⟨indexed.record, coming, reaches⟩
    · rintro ⟨record, coming, reaches⟩
      exact sees.found_of_whole coming reaches
  · intro indexed answered
    obtain ⟨index, coming, _, after⟩ := sees.finds answered
    exact ⟨index.trans nextIndex, coming, after⟩
  · intro missing
    apply sees.keeps
    intro indexed answered
    cases missing.symm.trans (Look.found?_eq_some_iff.mpr answered)

/-- Every read of the run is exact behind the records that were returned before it. -/
theorem exact_of_follow (acceptable : ∀ record ∈ records, record.Acceptable limit)
    {steps : List FollowStep} (follows : cursor.Follows limit records file taken)
    (leading : file ++ grown steps <+: logFile records) {earlier later : List Look} {look : Look}
    (split : cursor.follow file steps = earlier ++ look :: later) :
    look.Exact records (taken + (Look.found earlier).length) := by
  induction steps generalizing cursor file taken earlier with
  | nil => simp [Cursor.follow] at split
  | cons step steps ih =>
      cases step with
      | grow chunk =>
          rw [grown, ← List.append_assoc] at leading
          exact ih (follows.grow ((List.prefix_append _ _).trans leading)) leading split
      | look =>
          cases earlier with
          | nil =>
              cases split
              exact follows.exact_look acceptable
          | cons first earlier =>
              obtain ⟨rfl, remaining⟩ := List.cons.inj split
              have exactly := ih (follows.after_look acceptable) leading remaining
              rwa [Look.found_cons, List.length_append, ← Nat.add_assoc]

theorem found_prefix (acceptable : ∀ record ∈ records, record.Acceptable limit)
    {steps : List FollowStep} (follows : cursor.Follows limit records file taken)
    (leading : file ++ grown steps <+: logFile records) :
    Look.found (cursor.follow file steps) <+: numbered (taken + 1) (records.drop taken) := by
  induction steps generalizing cursor file taken with
  | nil => exact List.nil_prefix
  | cons step steps ih =>
      cases step with
      | grow chunk =>
          rw [grown, ← List.append_assoc] at leading
          exact ih (follows.grow ((List.prefix_append _ _).trans leading)) leading
      | look =>
          have behind := ih (follows.after_look acceptable) leading
          rw [Cursor.follow, Look.found_cons]
          cases answered : (cursor.look file).found? with
          | none =>
              rw [answered] at behind
              exact behind
          | some indexed =>
              rcases indexed with ⟨index, record⟩
              obtain ⟨rfl, coming, _⟩ :=
                (follows.exact_look acceptable).finds _ (Look.found?_eq_some_iff.mp answered)
              obtain ⟨present, same⟩ := List.getElem?_eq_some_iff.mp coming
              rw [answered] at behind
              rw [List.drop_eq_getElem_cons present, same, numbered]
              exact List.cons_prefix_cons.mpr ⟨rfl, behind⟩

end Cursor.Follows

/-! ## A stream gives up -/

namespace Stream

/-- The answers of a stream, each with what the file held at that time. -/
def answers (stream : Stream) : List Bytes → List (Option (Except Failure Indexed))
  | [] => []
  | file :: files => (stream.next file).1 :: (stream.next file).2.answers files

theorem finished_next {stream : Stream} {file : Bytes}
    (unsuccessful : ∀ indexed, (stream.next file).1 ≠ some (.ok indexed)) :
    (stream.next file).2.finished = true := by
  rcases stream with ⟨cursor, finished⟩
  cases finished with
  | true => rfl
  | false =>
      rcases read : cursor.next file with ⟨answer, after⟩
      simp only [next, read, Bool.false_eq_true, if_false] at unsuccessful ⊢
      cases answer with
      | error failure => rfl
      | ok found =>
          cases found with
          | none => rfl
          | some indexed => exact absurd rfl (unsuccessful indexed)

theorem answers_of_finished {stream : Stream} (finished : stream.finished = true)
    (files : List Bytes) : ∀ answer ∈ stream.answers files, answer = none := by
  have stays : ∀ file, stream.next file = (none, stream) := by
    intro file
    rw [next, if_pos finished]
  induction files with
  | nil =>
      intro answer member
      cases member
  | cons file files ih =>
      intro answer member
      rw [answers, stays] at member
      rcases List.mem_cons.mp member with rfl | later
      · rfl
      · exact ih answer later

/-- Behind its first answer that is no record a stream has none at all. -/
theorem answers_behind_end {stream : Stream} {files : List Bytes}
    {earlier later : List (Option (Except Failure Indexed))}
    {answer : Option (Except Failure Indexed)}
    (split : stream.answers files = earlier ++ answer :: later)
    (unsuccessful : ∀ indexed, answer ≠ some (.ok indexed)) : ∀ other ∈ later, other = none := by
  induction files generalizing stream earlier with
  | nil => simp [answers] at split
  | cons file files ih =>
      cases earlier with
      | nil =>
          cases split
          exact answers_of_finished (finished_next unsuccessful) files
      | cons first earlier => exact ih (List.cons.inj split).2

end Stream

/-- An append of an open handle adds one whole frame to a log, of a record that everyone
with the same limit accepts. -/
theorem Handle.append_runAlone {path : String} {settings : Settings} {ceiling : Option Nat}
    {found : Bytes} {handle : Handle} {requests : List (Option Nat × Request)}
    {written : List Record}
    (acceptable : ∀ record ∈ written, record.Acceptable settings.maxPayloadSize)
    (opened : (Handle.attach path settings ceiling found).answer = .ok handle) :
    let run := handle.runAlone (Handle.attach path settings ceiling found).file requests
    run.file = logFile written → ∀ moment payload index,
      (run.handle.append moment run.file payload).answer = .ok index →
        (Record.ofPayload payload).Acceptable settings.maxPayloadSize ∧
        (run.handle.append moment run.file payload).file =
          run.file ++ (Record.ofPayload payload).encode := by
  intro run whole moment payload index answered
  obtain ⟨same, mirrors⟩ := Handle.mirrors_runAlone acceptable opened whole
  rw [← whole] at mirrors
  obtain ⟨within, longer⟩ := mirrors.append_eq_ok answered
  rw [same] at within
  refine ⟨Record.acceptable_ofPayload within, longer.trans ?_⟩
  rw [logFile_append, whole, frames_cons, frames_nil, List.append_nil]

/-- However the frames of a log get into a file, and whenever a cursor reads it meanwhile,
the cursor returns the records one after the other, each as soon as it is whole. A stream
gives up instead, and the appends of a handle are one way for the file to grow. -/
theorem follow_loses_and_repeats_nothing (limit : UInt32) (records : List Record)
    (acceptable : ∀ record ∈ records, record.Acceptable limit) (already : Bytes)
    (steps : List FollowStep) (leading : already ++ grown steps <+: frames records) :
    let file := FileHeader.current.encode ++ already
    (∃ cursor, Cursor.start limit file = .ok cursor ∧
      Look.found (cursor.follow file steps) <+: numbered 1 records ∧
      ∀ earlier look later, cursor.follow file steps = earlier ++ look :: later →
        look.Exact records (Look.found earlier).length) ∧
    (∀ (stream : Stream) (files : List Bytes)
        (earlier later : List (Option (Except Failure Indexed)))
        (answer : Option (Except Failure Indexed)),
      stream.answers files = earlier ++ answer :: later →
      (∀ indexed, answer ≠ some (.ok indexed)) → ∀ other ∈ later, other = none) ∧
    (∀ path settings ceiling found handle requests written,
      settings.maxPayloadSize = limit → (∀ record ∈ written, record.Acceptable limit) →
      (Handle.attach path settings ceiling found).answer = .ok handle →
      let run := handle.runAlone (Handle.attach path settings ceiling found).file requests
      run.file = logFile written → ∀ moment payload index,
        (run.handle.append moment run.file payload).answer = .ok index →
          (Record.ofPayload payload).Acceptable limit ∧
          (run.handle.append moment run.file payload).file =
            run.file ++ (Record.ofPayload payload).encode) := by
  intro file
  refine ⟨?_, ?_, ?_⟩
  · have started : Cursor.start limit file = .ok ⟨FileHeader.size, 1, limit⟩ := by
      rw [Cursor.start, readFileHeader_append]
    have within : file ++ grown steps <+: logFile records := by
      rw [logFile, List.append_assoc]
      exact (List.prefix_append_right_inj _).mpr leading
    have follows : Cursor.Follows ⟨FileHeader.size, 1, limit⟩ limit records file 0 :=
      ⟨rfl, (List.prefix_append _ _).trans within⟩
    refine ⟨_, started, follows.found_prefix acceptable within, ?_⟩
    intro earlier look later split
    have exactly := follows.exact_of_follow acceptable within split
    rwa [Nat.zero_add] at exactly
  · intro stream files earlier later answer split unsuccessful
    exact Stream.answers_behind_end split unsuccessful
  · rintro path settings ceiling found handle requests written rfl accepted opened
    exact Handle.append_runAlone accepted opened

/-- The second read finds five octets of a frame header, and the third one the record. -/
theorem follow_past_torn_record :
    let records : List Record := [.ofPayload [1, 2], .ofPayload []]
    let steps : List FollowStep :=
      [.look, .grow ((frames records).take 5), .look, .grow ((frames records).drop 5), .look,
        .look, .look]
    let looks := Cursor.follow ⟨FileHeader.size, 1, 16⟩ FileHeader.current.encode steps
    Cursor.start 16 FileHeader.current.encode = .ok ⟨FileHeader.size, 1, 16⟩ ∧
      looks.map (fun look => look.found?.isSome) = [false, false, true, true, false] ∧
      Look.found looks = numbered 1 records ∧
      ∀ earlier look later, looks = earlier ++ look :: later →
        look.Exact records (Look.found earlier).length := by
  intro records steps looks
  have acceptable : ∀ record ∈ records, record.Acceptable 16 := by
    intro record member
    rcases List.mem_cons.mp member with rfl | member
    · exact Record.acceptable_ofPayload (by decide)
    · rw [List.mem_singleton.mp member]
      exact Record.acceptable_ofPayload (by decide)
  have leading : [] ++ grown steps <+: frames records := by decide +kernel
  obtain ⟨⟨cursor, started, returned, exactly⟩, _⟩ :=
    follow_loses_and_repeats_nothing 16 records acceptable [] steps leading
  cases started
  exact ⟨rfl, by decide +kernel, returned.eq_of_length (by decide +kernel), exactly⟩

end FrameLog
