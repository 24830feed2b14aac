import FrameLog.Handle.Run

/-!
# Several writers

Writers share one handle. Each makes its own requests in order; those of different writers
come in any order, but never at the same time. What can be said whatever that order was is
the tally.
-/

set_option autoImplicit false

namespace FrameLog

structure Made where
  writer : Nat
  request : Request
  deriving DecidableEq, Repr

namespace Made

def requestsOf (writer : Nat) (schedule : List Made) : List Request :=
  (schedule.filter (·.writer = writer)).map Made.request

/-- Each writer's own order is kept, and nobody else makes any requests. -/
def Interleaves (schedule : List Made) (writers : List (List Request)) : Prop :=
  ∀ writer, requestsOf writer schedule = writers.getD writer []

/-- Each writer, counted from `first`, finishes before the next one starts. -/
def inTurn (first : Nat) : List (List Request) → List Made
  | [] => []
  | requests :: writers => requests.map (Made.mk first) ++ inTurn (first + 1) writers

theorem requestsOf_append (writer : Nat) (earlier later : List Made) :
    requestsOf writer (earlier ++ later) =
      requestsOf writer earlier ++ requestsOf writer later := by
  simp [requestsOf]

theorem requestsOf_own (writer : Nat) (requests : List Request) :
    requestsOf writer (requests.map (Made.mk writer)) = requests := by
  induction requests with
  | nil => rfl
  | cons request requests ih => simpa [requestsOf] using ih

theorem requestsOf_other {writer other : Nat} (different : other ≠ writer)
    (requests : List Request) : requestsOf writer (requests.map (Made.mk other)) = [] := by
  simp [requestsOf, different]

theorem requestsOf_inTurn_below {first writer : Nat} (below : writer < first)
    (writers : List (List Request)) : requestsOf writer (inTurn first writers) = [] := by
  induction writers generalizing first with
  | nil => rfl
  | cons requests writers ih =>
      rw [inTurn, requestsOf_append, requestsOf_other (by omega), ih (by omega)]
      rfl

theorem requestsOf_inTurn (first writer : Nat) (writers : List (List Request)) :
    requestsOf (first + writer) (inTurn first writers) = writers.getD writer [] := by
  induction writers generalizing first writer with
  | nil => rfl
  | cons requests writers ih =>
      rw [inTurn, requestsOf_append]
      cases writer with
      | zero =>
          rw [Nat.add_zero, requestsOf_own, requestsOf_inTurn_below (Nat.lt_succ_self first),
            List.append_nil, List.getD_cons_zero]
      | succ writer =>
          rw [requestsOf_other (by omega), List.nil_append, List.getD_cons_succ,
            show first + (writer + 1) = first + 1 + writer by omega, ih]

theorem inTurn_interleaves (writers : List (List Request)) :
    Interleaves (inTurn 0 writers) writers := by
  intro writer
  simpa using requestsOf_inTurn 0 writer writers

end Made

/-! ## What every order has in common -/

structure Tally where
  /-- In growing order. -/
  indices : List Nat
  /-- Whether each writer saw its indices grow. -/
  ordered : Bool
  failures : Nat
  deriving DecidableEq, Repr

namespace Tally

def assigned : List (Except Failure Reply) → List Nat
  | [] => []
  | .ok (.index index) :: answers => index :: assigned answers
  | _ :: answers => assigned answers

def growing : List Nat → Bool
  | first :: second :: rest => first < second && growing (second :: rest)
  | _ => true

def answersTo (writer : Nat) (schedule : List Made) (answers : List (Except Failure Reply)) :
    List (Except Failure Reply) :=
  ((schedule.zip answers).filter (·.1.writer = writer)).map Prod.snd

def ofAnswers (schedule : List Made) (answers : List (Except Failure Reply)) : Tally where
  indices := (assigned answers).mergeSort
  ordered := (schedule.map Made.writer).eraseDups.all fun writer =>
    growing (assigned (answersTo writer schedule answers))
  failures := answers.countP (·.toOption.isNone)

end Tally

def Handle.runSchedule (handle : Handle) (file : Bytes) (schedule : List Made) : Run :=
  handle.run file (schedule.map fun made => .request none made.request)

end FrameLog
