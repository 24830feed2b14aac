/-!
# Numbered slots

What is in use is known by numbers of the users' choice, and what is put into one slot
leaves all others alone.
-/

set_option autoImplicit false

namespace FrameLog

structure Slots (Value : Type) where
  entries : List (Nat × Value) := []

namespace Slots

variable {Value : Type}

def get? (slots : Slots Value) (slot : Nat) : Option Value := slots.entries.lookup slot

def clear (slots : Slots Value) (slot : Nat) : Slots Value :=
  ⟨slots.entries.filter fun entry => entry.1 != slot⟩

def put (slots : Slots Value) (slot : Nat) (value : Value) : Slots Value :=
  ⟨(slot, value) :: (slots.clear slot).entries⟩

theorem lookup_other {number other : Nat} (different : other ≠ number) (value : Value)
    (entries : List (Nat × Value)) :
    List.lookup other ((number, value) :: entries) = List.lookup other entries := by
  rw [List.lookup_cons, beq_false_of_ne different]

@[simp] theorem get?_clear (slots : Slots Value) (slot other : Nat) :
    (slots.clear slot).get? other = if other = slot then none else slots.get? other := by
  rcases slots with ⟨entries⟩
  simp only [get?, clear]
  induction entries with
  | nil => simp
  | cons entry entries ih =>
      rcases entry with ⟨number, value⟩
      by_cases cleared : number = slot
      · subst cleared
        by_cases same : other = number
        · simpa [same] using ih
        · simpa [same, lookup_other same] using ih
      · by_cases same : other = number
        · subst same
          simp [cleared]
        · simpa [cleared, lookup_other same] using ih

@[simp] theorem get?_put (slots : Slots Value) (slot other : Nat) (value : Value) :
    (slots.put slot value).get? other =
      if other = slot then some value else slots.get? other := by
  by_cases same : other = slot
  · subst same
    simp [get?, put]
  · have others := get?_clear slots slot other
    simp only [get?, same, if_false] at others
    simp only [get?, put, lookup_other same, others, same, if_false]

end Slots

end FrameLog
