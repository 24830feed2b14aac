/-!
# Positions of records

Log indices are dense and start at one, so the positions of the records are a list of
frame offsets in log order, which grows and is cut at its end.
-/

set_option autoImplicit false

namespace FrameLog

structure Positions where
  offsets : List Nat
  deriving DecidableEq, Repr

namespace Positions

def empty : Positions := ⟨[]⟩

def length (positions : Positions) : Nat := positions.offsets.length

def lastIndex (positions : Positions) : Nat := positions.length

def isEmpty (positions : Positions) : Bool := positions.offsets.isEmpty

def push (positions : Positions) (offset : Nat) : Positions × Nat :=
  (⟨positions.offsets ++ [offset]⟩, positions.length + 1)

def offsetOf? (positions : Positions) (index : Nat) : Option Nat :=
  if index = 0 then none else positions.offsets[index - 1]?

/-- The offset answered is where the next record goes. -/
def truncateFrom (positions : Positions) (index : Nat) : Positions × Option Nat :=
  match positions.offsetOf? index with
  | none => (positions, none)
  | some offset => (⟨positions.offsets.take (index - 1)⟩, some offset)

def toList (positions : Positions) : List (Nat × Nat) :=
  (positions.offsets.zipIdx 1).map fun entry => (entry.2, entry.1)

/-! ## Laws -/

@[simp] theorem offsets_push (positions : Positions) (offset : Nat) :
    (positions.push offset).1.offsets = positions.offsets ++ [offset] := rfl

theorem offsetOf?_eq_some_iff {positions : Positions} {index offset : Nat} :
    positions.offsetOf? index = some offset ↔
      index ≠ 0 ∧ positions.offsets[index - 1]? = some offset := by
  by_cases zero : index = 0 <;> simp [offsetOf?, zero]

theorem offsetOf?_eq_none_iff {positions : Positions} {index : Nat} :
    positions.offsetOf? index = none ↔ index = 0 ∨ positions.length < index := by
  by_cases zero : index = 0 <;> simp [offsetOf?, zero, length]
  omega

end Positions

end FrameLog
