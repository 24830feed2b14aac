import FrameLog.Scan

/-!
# Reading a log in order

A cursor moves on only over a sound frame, so after the end or a fault the same read can be
repeated, and finds whatever was appended since. A stream is over for good after its first
end or fault.
-/

set_option autoImplicit false

namespace FrameLog

structure Cursor where
  position : Nat
  nextIndex : Nat
  maxPayloadSize : UInt32
  deriving DecidableEq, Repr

structure Indexed where
  index : Nat
  record : Record
  deriving DecidableEq, Repr

namespace Cursor

def start (maxPayloadSize : UInt32) (file : Bytes) : Except Failure Cursor :=
  match readFileHeader file with
  | .error failure => .error failure
  | .ok _ => .ok ⟨FileHeader.size, 1, maxPayloadSize⟩

def advance (cursor : Cursor) (record : Record) : Cursor :=
  { cursor with
    position := cursor.position + record.frameSize
    nextIndex := cursor.nextIndex + 1 }

def next (cursor : Cursor) (file : Bytes) : Except Failure (Option Indexed) × Cursor :=
  match readFrameAt cursor.maxPayloadSize file cursor.position with
  | .ok record => (.ok (some ⟨cursor.nextIndex, record⟩), cursor.advance record)
  | .error .absent => (.ok none, cursor)
  | .error fault => (.error (fault.failure cursor.position), cursor)

end Cursor

structure Stream where
  cursor : Cursor
  finished : Bool := false
  deriving DecidableEq, Repr

namespace Stream

/-- The next item: a record, the failure that ends the stream, or none when it is over. -/
def next (stream : Stream) (file : Bytes) : Option (Except Failure Indexed) × Stream :=
  if stream.finished then (none, stream)
  else match stream.cursor.next file with
    | (.ok (some indexed), cursor) => (some (.ok indexed), { stream with cursor })
    | (.ok none, cursor) => (none, ⟨cursor, true⟩)
    | (.error failure, cursor) => (some (.error failure), ⟨cursor, true⟩)

/-- How much of the file the stream may still go through. -/
def remaining (stream : Stream) (file : Bytes) : Nat :=
  if stream.finished then 0 else file.length - stream.cursor.position + 1

theorem remaining_next {stream later : Stream} {file : Bytes} {item : Except Failure Indexed}
    (advanced : stream.next file = (some item, later)) :
    later.remaining file < stream.remaining file := by
  rcases stream with ⟨cursor, finished⟩
  cases finished with
  | true => simp [next] at advanced
  | false =>
      cases read : readFrameAt cursor.maxPayloadSize file cursor.position with
      | ok record =>
          have shorter := readFrame_rest_shorter read
          simp [next, Cursor.next, read] at advanced
          obtain ⟨_, rfl⟩ := advanced
          simp only [List.drop_drop, List.length_drop, remaining, Cursor.advance] at shorter ⊢
          simp
          omega
      | error fault =>
          cases fault <;> simp [next, Cursor.next, read] at advanced <;>
            obtain ⟨_, rfl⟩ := advanced <;> simp [remaining]

def toList (stream : Stream) (file : Bytes) : List (Except Failure Indexed) :=
  match _ : stream.next file with
  | (none, _) => []
  | (some item, later) => item :: later.toList file
termination_by stream.remaining file
decreasing_by exact remaining_next ‹_›

end Stream

end FrameLog
