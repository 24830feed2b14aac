import FrameLog.Handle.Run

/-!
# Handles that nothing tells apart

Two handles are alike if they differ at most in their path, their counters and the report
of their opening. No answer depends on these, nor does anything that is written.

Main statement: whatever happens to a file, alike handles on it give the same answers, leave
the same file, and stay alike.
-/

set_option autoImplicit false

namespace FrameLog

structure Handle.Alike (left right : Handle) : Prop where
  settings : left.settings = right.settings
  positions : left.positions = right.positions
  writeOffset : left.writeOffset = right.writeOffset
  nextIndex : left.nextIndex = right.nextIndex
  closed : left.closed = right.closed

structure Served.Alike {Value : Type} (left right : Served Value) : Prop where
  answer : left.answer = right.answer
  handle : left.handle.Alike right.handle
  file : left.file = right.file

structure Run.Alike (left right : Run) : Prop where
  answers : left.answers = right.answers
  handle : left.handle.Alike right.handle
  file : left.file = right.file

theorem Served.Alike.map {Value Result : Type} {left right : Served Value}
    (alike : left.Alike right) (transform : Value → Result) :
    (left.map transform).Alike (right.map transform) :=
  ⟨congrArg (Except.map transform) alike.answer, alike.handle, alike.file⟩

theorem Run.Alike.after {left right : Run} {leftServed rightServed : Served Reply}
    (later : left.Alike right) (first : leftServed.Alike rightServed) :
    (left.after leftServed).Alike (right.after rightServed) where
  answers := by simp only [Run.after, first.answer, later.answers]
  handle := later.handle
  file := later.file

namespace Handle.Alike

variable {left right : Handle}

theorem exists_eq (alike : left.Alike right) :
    ∃ path counters report, right = { left with path, counters, report } := by
  rcases left with ⟨leftPath, settings, positions, writeOffset, nextIndex, closed, leftCounters,
    leftReport⟩
  rcases right with ⟨path, _, _, _, _, _, counters, report⟩
  obtain ⟨rfl, rfl, rfl, rfl, rfl⟩ := alike
  exact ⟨path, counters, report, rfl⟩

theorem refused {Value : Type} (alike : left.Alike right) (file : Bytes) (failure : Failure) :
    (Served.refused left file failure : Served Value).Alike (.refused right file failure) :=
  ⟨rfl, alike, rfl⟩

theorem recounted (alike : left.Alike right) (counters others : Counters) :
    ({ left with counters } : Handle).Alike { right with counters := others } :=
  ⟨alike.settings, alike.positions, alike.writeOffset, alike.nextIndex, alike.closed⟩

theorem append (alike : left.Alike right) (ceiling : Option Nat) (file payload : Bytes) :
    (left.append ceiling file payload).Alike (right.append ceiling file payload) := by
  obtain ⟨path, counters, report, rfl⟩ := alike.exists_eq
  simp only [Handle.append]
  split
  · exact alike.refused file _
  · split
    · exact alike.refused file _
    · split
      · exact ⟨rfl, alike, rfl⟩
      · exact ⟨rfl, ⟨rfl, rfl, rfl, rfl, rfl⟩, rfl⟩

theorem appendAndSync (alike : left.Alike right) (ceiling : Option Nat) (file payload : Bytes)
    (syncFailure : Option IoCause) :
    (left.appendAndSync ceiling file payload syncFailure).Alike
      (right.appendAndSync ceiling file payload syncFailure) := by
  have appended := alike.append ceiling file payload
  have same := appended.answer
  simp only [Handle.appendAndSync]
  cases answered : (left.append ceiling file payload).answer with
  | error failure =>
      rw [answered] at same
      simpa only [← same] using appended
  | ok index =>
      rw [answered] at same
      simp only [← same]
      cases syncFailure with
      | none => exact ⟨rfl, appended.handle.recounted _ _, appended.file⟩
      | some cause => exact ⟨rfl, appended.handle, appended.file⟩

theorem sync (alike : left.Alike right) (file : Bytes) (syncFailure : Option IoCause) :
    (left.sync file syncFailure).Alike (right.sync file syncFailure) := by
  obtain ⟨path, counters, report, rfl⟩ := alike.exists_eq
  simp only [Handle.sync]
  split
  · exact alike.refused file _
  · cases syncFailure with
    | none => exact ⟨rfl, alike.recounted _ _, rfl⟩
    | some cause => exact alike.refused file _

theorem truncateFrom (alike : left.Alike right) (ceiling : Option Nat) (file : Bytes)
    (index : Nat) (syncFailure : Option IoCause) :
    (left.truncateFrom ceiling file index syncFailure).Alike
      (right.truncateFrom ceiling file index syncFailure) := by
  obtain ⟨path, counters, report, rfl⟩ := alike.exists_eq
  simp only [Handle.truncateFrom]
  split
  · exact alike.refused file _
  · cases found : left.positions.truncateFrom index with
    | mk positions place =>
        cases place with
        | none => exact alike.refused file _
        | some offset =>
            simp only
            split
            · exact alike.refused _ _
            · exact ⟨rfl, ⟨rfl, rfl, rfl, rfl, rfl⟩, rfl⟩
            · exact ⟨rfl, ⟨rfl, rfl, rfl, rfl, rfl⟩, rfl⟩

theorem close (alike : left.Alike right) (file : Bytes) (syncFailure : Option IoCause) :
    (left.close file syncFailure).Alike (right.close file syncFailure) := by
  obtain ⟨path, counters, report, rfl⟩ := alike.exists_eq
  simp only [Handle.close]
  split
  · exact ⟨rfl, alike, rfl⟩
  · cases syncFailure with
    | none => exact ⟨rfl, ⟨rfl, rfl, rfl, rfl, rfl⟩, rfl⟩
    | some cause => exact ⟨rfl, ⟨rfl, rfl, rfl, rfl, rfl⟩, rfl⟩

theorem readPayload (alike : left.Alike right) (file : Bytes) (offset : Nat) :
    (left.readPayload file offset).Alike (right.readPayload file offset) := by
  obtain ⟨path, counters, report, rfl⟩ := alike.exists_eq
  simp only [Handle.readPayload]
  split
  · exact ⟨rfl, alike, rfl⟩
  · split
    · exact ⟨rfl, alike.recounted _ _, rfl⟩
    · exact alike.refused file _

theorem get (alike : left.Alike right) (file : Bytes) (index : Nat) :
    (left.get file index).Alike (right.get file index) := by
  have read := alike.readPayload file
  obtain ⟨path, counters, report, rfl⟩ := alike.exists_eq
  simp only [Handle.get]
  split
  · exact alike.refused file _
  · split
    · exact alike.refused file _
    · exact read _

theorem readPayloads (alike : left.Alike right) (file : Bytes) (offsets : List Nat) :
    (left.readPayloads file offsets).Alike (right.readPayloads file offsets) := by
  induction offsets with
  | nil => exact ⟨rfl, alike, rfl⟩
  | cons offset offsets ih =>
      have first := alike.readPayload file offset
      have same := first.answer
      simp only [Handle.readPayloads]
      cases answered : (left.readPayload file offset).answer with
      | error failure =>
          rw [answered] at same
          simp only [← same]
          exact ⟨rfl, first.handle, first.file⟩
      | ok payload =>
          rw [answered] at same
          simp only [← same]
          exact ih.map _

theorem readAll (alike : left.Alike right) (file : Bytes) :
    (left.readAll file).Alike (right.readAll file) := by
  have read := alike.readPayloads file left.positions.offsets
  obtain ⟨path, counters, report, rfl⟩ := alike.exists_eq
  simp only [Handle.readAll]
  split
  · exact alike.refused file _
  · exact read

theorem serve (alike : left.Alike right) (ceiling : Option Nat) (file : Bytes)
    (request : Request) (syncFailure : Option IoCause) :
    (left.serve ceiling file request syncFailure).Alike
      (right.serve ceiling file request syncFailure) := by
  cases request with
  | append payload => exact (alike.append ceiling file payload).map _
  | appendAndSync payload => exact (alike.appendAndSync ceiling file payload syncFailure).map _
  | sync => exact (alike.sync file syncFailure).map _
  | truncateFrom index => exact (alike.truncateFrom ceiling file index syncFailure).map _
  | get index => exact (alike.get file index).map _
  | readAll => exact (alike.readAll file).map _
  | close => exact (alike.close file syncFailure).map _

theorem run (alike : left.Alike right) (file : Bytes) (occurrences : List Occurrence) :
    (left.run file occurrences).Alike (right.run file occurrences) := by
  induction occurrences generalizing left right file with
  | nil => exact ⟨rfl, alike, rfl⟩
  | cons occurrence occurrences ih =>
      cases occurrence with
      | overwritten contents => exact ih alike contents
      | request ceiling request syncFailure =>
          have served := alike.serve ceiling file request syncFailure
          have later := ih served.handle (left.serve ceiling file request syncFailure).file
          simp only [Handle.run]
          rw [← served.file]
          exact later.after served

end Handle.Alike

end FrameLog
