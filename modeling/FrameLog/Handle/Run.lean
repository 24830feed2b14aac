import FrameLog.Handle.Request

/-!
# Runs of a handle

Everything that can happen between opening a log and letting go of it: requests, each under
the ceiling of its moment and with the outcome of its sync, and changes that something else
makes to the file.
-/

set_option autoImplicit false

namespace FrameLog

inductive Occurrence where
  | request (ceiling : Option Nat) (request : Request) (syncFailure : Option IoCause := none)
  /-- Something other than the handle gave the file these contents. -/
  | overwritten (contents : Bytes)
  deriving DecidableEq, Repr

def SyncsHold (occurrences : List Occurrence) : Prop :=
  ∀ ceiling request cause, .request ceiling request (some cause) ∉ occurrences

/-- There is one answer for each request. -/
structure Run where
  answers : List (Except Failure Reply)
  handle : Handle
  file : Bytes
  events : List Event

def Run.after (served : Served Reply) (run : Run) : Run :=
  { run with
    answers := served.answer :: run.answers
    events := served.events ++ run.events }

def Handle.run (handle : Handle) (file : Bytes) : List Occurrence → Run
  | [] => ⟨[], handle, file, []⟩
  | .request ceiling request syncFailure :: later =>
      let served := handle.serve ceiling file request syncFailure
      (served.handle.run served.file later).after served
  | .overwritten contents :: later => handle.run contents later

theorem Handle.run_append (handle : Handle) (file : Bytes) (earlier later : List Occurrence) :
    handle.run file (earlier ++ later) =
      let first := handle.run file earlier
      let second := first.handle.run first.file later
      { second with
        answers := first.answers ++ second.answers
        events := first.events ++ second.events } := by
  induction earlier generalizing handle file with
  | nil => rfl
  | cons occurrence earlier ih =>
      cases occurrence with
      | request ceiling request syncFailure =>
          simp only [List.cons_append, Handle.run, ih, Run.after, List.append_assoc]
      | overwritten contents => exact ih handle contents

end FrameLog
