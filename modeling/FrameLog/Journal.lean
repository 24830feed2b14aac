import FrameLog.Event

/-!
# The journal of a log

A log followed by its events alone: an appended record has to have the next index and start
where the last one ended, and a cut has to be made at an index that is there.
-/

set_option autoImplicit false

namespace FrameLog

structure Journal where
  starts : List Nat
  nextStart : Nat
  deriving DecidableEq, Repr

namespace Journal

def lastIndex (journal : Journal) : Nat := journal.starts.length

/-- Events that change nothing are passed over. -/
def follow? (journal : Journal) : Event → Option Journal
  | .appended index offset length =>
      if index = journal.lastIndex + 1 ∧ offset = journal.nextStart then
        some ⟨journal.starts ++ [offset], offset + FrameHeader.size + length⟩
      else none
  | .truncated fromIndex offset removed =>
      if 1 ≤ fromIndex ∧ journal.starts[fromIndex - 1]? = some offset ∧
          removed + fromIndex = journal.lastIndex + 1 then
        some ⟨journal.starts.take (fromIndex - 1), offset⟩
      else none
  | _ => some journal

def replay? (journal : Journal) : List Event → Option Journal
  | [] => some journal
  | event :: events => (journal.follow? event).bind fun next => next.replay? events

theorem replay?_append (journal : Journal) (earlier later : List Event) :
    journal.replay? (earlier ++ later) =
      (journal.replay? earlier).bind fun next => next.replay? later := by
  induction earlier generalizing journal with
  | nil => rfl
  | cons event earlier ih =>
      cases followed : journal.follow? event with
      | none => simp [replay?, followed]
      | some next => simp [replay?, followed, ih]

end Journal

end FrameLog
