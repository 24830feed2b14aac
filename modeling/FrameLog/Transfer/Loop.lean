import FrameLog.Transfer

/-!
# Transfers request by request

The loops behind `readFull` and `writeAll`, for a system that may interrupt for ever. A loop
is run on the responses to its first requests, and is then over or about to ask again.
-/

set_option autoImplicit false

namespace FrameLog.Transfer

/-- What one request comes to. A failure other than an interruption ends the loop. -/
abbrev Response := Except IoCause Answer

namespace Response

def interrupts : Response → Bool
  | .ok .interrupted => true
  | _ => false

/-- How many octets a request was permitted to move. It moves no more than are left. -/
def moved : Response → Nat
  | .ok (.moved most) => most
  | _ => 0

/-- What a writing loop fails with on this response, if it does. -/
def refusal? : Response → Option IoCause
  | .ok (.moved 0) => some .writeZero
  | .ok _ => none
  | .error cause => some cause

theorem refusal?_moved_eq_none_iff {most : Nat} :
    refusal? (.ok (.moved most)) = none ↔ 0 < most := by
  cases most <;> simp [refusal?]

end Response

/-- The octets that requests with these responses move in all, as long as so many are left. -/
def transferred : List Response → Nat
  | [] => 0
  | response :: later => response.moved + transferred later

def firstResponses (system : Nat → Response) (requests : Nat) : List Response :=
  (List.range requests).map system

/-- Reading at most `count` octets from `offset` on when `arrived` have been read already.
With `none` the loop asks once more than there are responses. -/
def readLoop? (contents : Bytes) (offset count : Nat) (arrived : Bytes)
    (responses : List Response) : Option (Except IoCause Bytes) :=
  if arrived.length < count then
    match responses with
    | [] => none
    | .ok .interrupted :: later => readLoop? contents offset count arrived later
    | .ok (.moved most) :: later =>
        let more := contents.window (offset + arrived.length) (min most (count - arrived.length))
        if more.isEmpty then some (.ok arrived)
        else readLoop? contents offset count (arrived ++ more) later
    | .error cause :: _ => some (.error cause)
  else some (.ok arrived)

def writeLoop? (contents : Bytes) (offset : Nat) (buffer : Bytes)
    (responses : List Response) : Option Written :=
  if buffer.isEmpty then some ⟨contents, none⟩
  else
    match responses with
    | [] => none
    | .ok .interrupted :: later => writeLoop? contents offset buffer later
    | .ok (.moved most) :: later =>
        if most = 0 then some ⟨contents, some .writeZero⟩
        else
          let moved := buffer.take most
          writeLoop? (contents.overlay offset moved) (offset + moved.length)
            (buffer.drop most) later
    | .error cause :: _ => some ⟨contents, some cause⟩

/-! ## Laws -/

@[simp] theorem transferred_interrupted (responses : List Response) :
    transferred (.ok .interrupted :: responses) = transferred responses :=
  Nat.zero_add _

@[simp] theorem transferred_moved (most : Nat) (responses : List Response) :
    transferred (.ok (.moved most) :: responses) = most + transferred responses := rfl

section

variable {contents : Bytes} {offset count : Nat} {arrived buffer : Bytes}

theorem readLoop?_of_enough (enough : count ≤ arrived.length) (responses : List Response) :
    readLoop? contents offset count arrived responses = some (.ok arrived) := by
  rw [readLoop?.eq_def, if_neg (Nat.not_lt.mpr enough)]

theorem readLoop?_interrupted (responses : List Response) :
    readLoop? contents offset count arrived (.ok .interrupted :: responses) =
      readLoop? contents offset count arrived responses := by
  rcases Nat.lt_or_ge arrived.length count with wanting | enough
  · rw [readLoop?, if_pos wanting]
  · rw [readLoop?_of_enough enough, readLoop?_of_enough enough]

theorem readLoop?_ended {most : Nat}
    (nothing : contents.window (offset + arrived.length) (min most (count - arrived.length)) = [])
    (responses : List Response) :
    readLoop? contents offset count arrived (.ok (.moved most) :: responses) =
      some (.ok arrived) := by
  rcases Nat.lt_or_ge arrived.length count with wanting | enough
  · rw [readLoop?, if_pos wanting, nothing]
    rfl
  · exact readLoop?_of_enough enough _

theorem readLoop?_moved {most : Nat} {more : Bytes}
    (arrives : contents.window (offset + arrived.length) (min most (count - arrived.length)) = more)
    (something : more ≠ []) (responses : List Response) :
    readLoop? contents offset count arrived (.ok (.moved most) :: responses) =
      readLoop? contents offset count (arrived ++ more) responses := by
  have wanting : arrived.length < count := by
    have progress := List.length_pos_iff.mpr something
    rw [← arrives, Bytes.length_window] at progress
    omega
  rw [readLoop?, if_pos wanting, arrives, if_neg (mt List.isEmpty_iff.mp something)]

theorem writeLoop?_nil (responses : List Response) :
    writeLoop? contents offset [] responses = some ⟨contents, none⟩ := by
  rw [writeLoop?.eq_def]
  rfl

theorem writeLoop?_interrupted (responses : List Response) :
    writeLoop? contents offset buffer (.ok .interrupted :: responses) =
      writeLoop? contents offset buffer responses := by
  cases buffer with
  | nil => rw [writeLoop?_nil, writeLoop?_nil]
  | cons octet buffer => rw [writeLoop?, if_neg (by simp)]

theorem writeLoop?_moved (occupied : buffer ≠ []) {most : Nat} (positive : 0 < most)
    (responses : List Response) :
    writeLoop? contents offset buffer (.ok (.moved most) :: responses) =
      writeLoop? (contents.overlay offset (buffer.take most))
        (offset + (buffer.take most).length) (buffer.drop most) responses := by
  rw [writeLoop?, if_neg (mt List.isEmpty_iff.mp occupied), if_neg (Nat.ne_of_gt positive)]

theorem writeLoop?_refused (occupied : buffer ≠ []) {response : Response} {cause : IoCause}
    (refused : response.refusal? = some cause) (responses : List Response) :
    writeLoop? contents offset buffer (response :: responses) =
      some ⟨contents, some cause⟩ := by
  rw [writeLoop?.eq_def, if_neg (mt List.isEmpty_iff.mp occupied)]
  match response, refused with
  | .ok (.moved 0), rfl | .error _, rfl => rfl

end

end FrameLog.Transfer
