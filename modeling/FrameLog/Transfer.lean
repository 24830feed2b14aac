import FrameLog.Bytes
import FrameLog.Failure

/-!
# Positional transfers

A request to move octets may move only some of them, or be interrupted before any has
moved. `readFull` and `writeAll` repeat it until everything is done; what the system
answers is an argument.
-/

set_option autoImplicit false

namespace FrameLog.Transfer

/-- A request never moves more than it asked for, so a larger count stands for all of it. -/
inductive Answer where
  | moved (count : Nat)
  | interrupted
  deriving DecidableEq, Repr

/-! ## Reading -/

/-- A request that moves nothing means the end of the contents. -/
def readFull : List Answer → Bytes → (offset count : Nat) → Bytes
  | [], contents, offset, count => contents.window offset count
  | .interrupted :: answers, contents, offset, count =>
      readFull answers contents offset count
  | .moved most :: answers, contents, offset, count =>
      let arrived := contents.window offset (min most count)
      if arrived.isEmpty then []
      else arrived ++
        readFull answers contents (offset + arrived.length) (count - arrived.length)

@[simp] theorem readFull_nil (contents : Bytes) (offset count : Nat) :
    readFull [] contents offset count = contents.window offset count := rfl

/-! ## Writing -/

structure Written where
  contents : Bytes
  failure : Option IoCause
  deriving DecidableEq, Repr

/-- `ending` is what stops the system after the listed answers; with none it moves all that
is left. Octets moved before a failure stay. -/
def writeAll (ending : Option IoCause) :
    List Answer → Bytes → (offset : Nat) → (buffer : Bytes) → Written
  | [], contents, offset, buffer =>
      if buffer.isEmpty then ⟨contents, none⟩
      else match ending with
        | none => ⟨contents.overlay offset buffer, none⟩
        | some cause => ⟨contents, some cause⟩
  | .interrupted :: answers, contents, offset, buffer =>
      writeAll ending answers contents offset buffer
  | .moved most :: answers, contents, offset, buffer =>
      if buffer.isEmpty then ⟨contents, none⟩
      else if most = 0 then ⟨contents, some .writeZero⟩
      else
        let moved := buffer.take most
        writeAll ending answers (contents.overlay offset moved) (offset + moved.length)
          (buffer.drop most)

/-! ## A ceiling on file sizes -/

/-- A write that starts below the ceiling moves the octets up to it before it is refused. -/
def write (ceiling : Option Nat) (contents : Bytes) (offset : Nat) (buffer : Bytes) : Written :=
  match ceiling with
  | none => writeAll none [] contents offset buffer
  | some most =>
      if offset + buffer.length ≤ most then writeAll none [] contents offset buffer
      else if offset < most then
        writeAll (some .fileTooLarge) [.moved (most - offset)] contents offset buffer
      else writeAll (some .fileTooLarge) [] contents offset buffer

/-- Cutting always succeeds; only growing can be refused. -/
def setLength (ceiling : Option Nat) (contents : Bytes) (length : Nat) : Written :=
  match ceiling with
  | none => ⟨contents.resize length, none⟩
  | some most =>
      if contents.length < length ∧ most < length then ⟨contents, some .fileTooLarge⟩
      else ⟨contents.resize length, none⟩

end FrameLog.Transfer
