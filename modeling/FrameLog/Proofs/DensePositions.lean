import FrameLog.Positions
import Mathlib.Data.List.Chain

/-!
# Dense positions

What positions hold is told by their past alone: every offset that was pushed and that no
later truncation reached, each still under the index it was pushed at. These offsets are a
list numbered from one without a gap, and whatever is asked of the positions is answered
from that list. Requests may name any index at all; only pushed offsets are asked to grow.
-/

set_option autoImplicit false

namespace FrameLog.Positions

/-! ## Pasts -/

inductive Change where
  | push (offset : Nat)
  | truncateFrom (index : Nat)
  deriving DecidableEq, Repr

/-- A change that was made; of a push also the index that it was answered. -/
inductive Step where
  | pushed (offset index : Nat)
  | truncated (first : Nat)
  deriving DecidableEq, Repr

/-- A truncation reaches the record it names and all behind it. Index zero names none. -/
def Step.reaches (index : Nat) : Step → Bool
  | pushed _ _ => false
  | truncated first => decide (1 ≤ first ∧ first ≤ index)

/-- The pushes that no later truncation reached: indices with their offsets. -/
def standing : List Step → List (Nat × Nat)
  | [] => []
  | .pushed offset index :: later =>
      if later.any (·.reaches index) then standing later
      else (index, offset) :: standing later
  | .truncated _ :: later => standing later

/-- What comes later only takes away from what stood before, and adds behind it. -/
theorem standing_append (earlier later : List Step) :
    standing (earlier ++ later) =
      (standing earlier).filter (fun entry => !later.any (·.reaches entry.1)) ++
        standing later := by
  induction earlier with
  | nil => rfl
  | cons step earlier ih =>
      cases step with
      | truncated first => exact ih
      | pushed offset index =>
          simp only [List.cons_append, standing, List.any_append, ih]
          cases soon : earlier.any (·.reaches index) with
          | true => simp
          | false => cases late : later.any (·.reaches index) <;> simp [late]

structure History where
  positions : Positions
  steps : List Step

namespace History

def start : History := ⟨empty, []⟩

def next (history : History) : Change → History
  | .push offset =>
      let (positions, index) := history.positions.push offset
      ⟨positions, history.steps ++ [.pushed offset index]⟩
  | .truncateFrom index =>
      ⟨(history.positions.truncateFrom index).1, history.steps ++ [.truncated index]⟩

def after (history : History) (changes : List Change) : History :=
  changes.foldl next history

/-- The offsets that were pushed and not truncated since, in order. -/
def kept (history : History) : List Nat := (standing history.steps).map Prod.snd

/-- A push goes past the last offset that is kept. -/
def Admits (history : History) : Change → Prop
  | .push offset => ∀ last ∈ history.kept.getLast?, last < offset
  | .truncateFrom _ => True

def Growing (history : History) : List Change → Prop
  | [] => True
  | change :: later => history.Admits change ∧ (history.next change).Growing later

instance decidableAdmits (history : History) : DecidablePred history.Admits
  | .push offset => inferInstanceAs (Decidable (∀ last ∈ history.kept.getLast?, last < offset))
  | .truncateFrom _ => inferInstanceAs (Decidable True)

instance decidableGrowing (history : History) :
    (changes : List Change) → Decidable (history.Growing changes)
  | [] => inferInstanceAs (Decidable True)
  | change :: later =>
      have := decidableGrowing (history.next change) later
      inferInstanceAs (Decidable (history.Admits change ∧ (history.next change).Growing later))

end History

/-! ## Lists with their indices -/

theorem filter_zipIdx_lt (offsets : List Nat) (start first : Nat) :
    (offsets.zipIdx start).filter (fun entry => decide (entry.2 < first)) =
      (offsets.take (first - start)).zipIdx start := by
  induction offsets generalizing start with
  | nil => simp
  | cons offset offsets ih =>
      rw [List.zipIdx_cons, List.filter_cons, ih]
      by_cases inside : start < first
      · have further : first - start = first - (start + 1) + 1 := by omega
        rw [further, List.take_succ_cons, List.zipIdx_cons]
        simp [inside]
      · have nothing : first - start = 0 := by omega
        have nothingBehind : first - (start + 1) = 0 := by omega
        simp [inside, nothing, nothingBehind]

variable (positions : Positions)

theorem map_offset_toList : positions.toList.map Prod.snd = positions.offsets := by
  rw [toList, List.map_map]
  exact List.zipIdx_map_fst 1 positions.offsets

theorem toList_push (offset : Nat) :
    (positions.push offset).1.toList =
      positions.toList ++ [(positions.length + 1, offset)] := by
  simp [toList, List.zipIdx_append, length, Nat.add_comm 1]

theorem offsets_truncateFrom {index : Nat} (positive : 1 ≤ index) :
    (positions.truncateFrom index).1.offsets = positions.offsets.take (index - 1) := by
  rw [truncateFrom]
  cases found : positions.offsetOf? index with
  | some offset => rfl
  | none =>
      rcases offsetOf?_eq_none_iff.mp found with zero | beyond
      · omega
      · exact (List.take_of_length_le (Nat.le_sub_one_of_lt beyond)).symm

theorem toList_truncateFrom (index : Nat) :
    (positions.truncateFrom index).1.toList =
      positions.toList.filter fun entry => !(Step.truncated index).reaches entry.1 := by
  rcases Nat.eq_zero_or_pos index with rfl | positive
  · have spared : ∀ entry ∈ positions.toList,
        (!(Step.truncated 0).reaches entry.1) = true := by
      intro entry _
      simp [Step.reaches]
    exact (List.filter_eq_self.mpr spared).symm
  · have spared : (fun entry : Nat × Nat => !(Step.truncated index).reaches entry.2) =
        fun entry => decide (entry.2 < index) := by
      funext entry
      rw [Step.reaches, ← decide_not, decide_eq_decide]
      omega
    calc (positions.truncateFrom index).1.toList
        = ((positions.offsets.zipIdx 1).filter fun entry => decide (entry.2 < index)).map
            fun entry => (entry.2, entry.1) := by
          rw [toList, offsets_truncateFrom positions positive, filter_zipIdx_lt]
      _ = positions.toList.filter fun entry => !(Step.truncated index).reaches entry.1 := by
          rw [← spared, toList, List.filter_map]
          rfl

/-! ## What a past comes to -/

namespace History

variable {history : History}

/-- A change does to the positions what it does to the account of their past. -/
theorem listed_next (listed : history.positions.toList = standing history.steps)
    (change : Change) :
    (history.next change).positions.toList = standing (history.next change).steps := by
  cases change with
  | push offset =>
      have spared : (standing history.steps).filter (fun entry => !([Step.pushed offset
          (history.positions.length + 1)].any (·.reaches entry.1))) =
          standing history.steps :=
        List.filter_eq_self.mpr (fun _ _ => rfl)
      calc (history.next (.push offset)).positions.toList
          = standing history.steps ++ [(history.positions.length + 1, offset)] := by
            rw [← listed]
            exact toList_push history.positions offset
        _ = standing (history.steps ++ [.pushed offset (history.positions.length + 1)]) := by
            rw [standing_append, spared]
            rfl
  | truncateFrom index =>
      calc (history.next (.truncateFrom index)).positions.toList
          = (standing history.steps).filter
              fun entry => !(Step.truncated index).reaches entry.1 := by
            rw [← listed]
            exact toList_truncateFrom history.positions index
        _ = standing (history.steps ++ [.truncated index]) := by
            rw [standing_append]
            simp [standing]

theorem kept_of_listed (listed : history.positions.toList = standing history.steps) :
    history.kept = history.positions.offsets := by
  rw [kept, ← listed, map_offset_toList]

/-- The positions hold what is kept of their past, in rising order. -/
structure Sound (history : History) : Prop where
  listed : history.positions.toList = standing history.steps
  rising : history.positions.offsets.Pairwise (· < ·)

theorem sound_start : start.Sound := ⟨rfl, .nil⟩

namespace Sound

theorem kept_eq (sound : history.Sound) : history.kept = history.positions.offsets :=
  kept_of_listed sound.listed

theorem next (sound : history.Sound) {change : Change} (admitted : history.Admits change) :
    (history.next change).Sound := by
  refine ⟨listed_next sound.listed change, ?_⟩
  cases change with
  | push offset =>
      have before := List.isChain_iff_pairwise.mpr sound.rising
      have last : ∀ last ∈ history.positions.offsets.getLast?, ∀ first ∈ [offset].head?,
          last < first := by
        rw [Admits, sound.kept_eq] at admitted
        intro last among first only
        cases only
        exact admitted last among
      exact List.isChain_iff_pairwise.mp (before.append (.singleton offset) last)
  | truncateFrom index =>
      rcases Nat.eq_zero_or_pos index with rfl | positive
      · exact sound.rising
      · have cut := offsets_truncateFrom history.positions positive
        rw [History.next, cut]
        exact sound.rising.take

theorem after (sound : history.Sound) {changes : List Change}
    (growing : history.Growing changes) : (history.after changes).Sound := by
  induction changes generalizing history with
  | nil => exact sound
  | cons change later ih =>
      obtain ⟨admitted, growing⟩ := growing
      exact ih (sound.next admitted) growing

end Sound

end History

/-! ## What positions answer -/

/-- Every request on the positions is answered from these offsets, numbered from one. -/
structure Numbers (positions : Positions) (kept : List Nat) : Prop where
  length : positions.length = kept.length
  lastIndex : positions.lastIndex = kept.length
  isEmpty : positions.isEmpty = true ↔ kept = []
  inside : ∀ before offset, kept[before]? = some offset →
    positions.offsetOf? (before + 1) = some offset
  outside : ∀ index, index = 0 ∨ kept.length < index → positions.offsetOf? index = none
  push : ∀ offset, positions.push offset = (⟨kept ++ [offset]⟩, kept.length + 1)
  truncateFrom : ∀ index offset, positions.offsetOf? index = some offset →
    positions.truncateFrom index = (⟨kept.take (index - 1)⟩, some offset)
  unchanged : ∀ index, positions.offsetOf? index = none →
    positions.truncateFrom index = (positions, none)
  /-- The listing pairs every index with its offset, in order. -/
  toList : positions.toList.map some =
    (List.range' 1 kept.length).map fun index => (positions.offsetOf? index).map (index, ·)

theorem numbers_offsets : positions.Numbers positions.offsets where
  length := rfl
  lastIndex := rfl
  isEmpty := List.isEmpty_iff
  inside := fun before _ found => offsetOf?_eq_some_iff.mpr ⟨Nat.succ_ne_zero before, found⟩
  outside := fun _ missing => offsetOf?_eq_none_iff.mpr missing
  push := fun _ => rfl
  truncateFrom := fun index offset found => by rw [Positions.truncateFrom, found]
  unchanged := fun index missing => by rw [Positions.truncateFrom, missing]
  toList := by
    apply List.ext_getElem?
    intro before
    rw [Positions.toList, List.getElem?_map, List.getElem?_map, List.getElem?_map,
      List.getElem?_zipIdx]
    cases found : positions.offsets[before]? with
    | none =>
        have beyond : positions.offsets.length ≤ before := List.getElem?_eq_none_iff.mp found
        simp [beyond]
    | some offset =>
        obtain ⟨within, _⟩ := List.getElem?_eq_some_iff.mp found
        have named : positions.offsetOf? (1 + before) = some offset :=
          offsetOf?_eq_some_iff.mpr ⟨by omega, by rwa [Nat.add_sub_cancel_left]⟩
        simp [within, named]

/-- Whatever was pushed and truncated before, with pushes that grow past the last offset kept:
what is kept is numbered from one, it rises, and each further change does to it what it says. -/
theorem kept_offsets_numbered_from_one (changes : List Change)
    (growing : History.start.Growing changes) :
    let now := History.start.after changes
    now.positions.Numbers now.kept ∧ now.kept.Pairwise (· < ·) ∧
      (∀ offset, (now.next (.push offset)).kept = now.kept ++ [offset]) ∧
      (∀ index, now.positions.offsetOf? index ≠ none →
        (now.next (.truncateFrom index)).kept = now.kept.take (index - 1) ∧
          ∀ offset, ((now.next (.truncateFrom index)).positions.push offset).2 = index) ∧
      ∀ index, now.positions.offsetOf? index = none →
        (now.next (.truncateFrom index)).kept = now.kept := by
  intro now
  have sound : now.Sound := History.sound_start.after growing
  have numbers := numbers_offsets now.positions
  have further : ∀ change, (now.next change).kept = (now.next change).positions.offsets :=
    fun change => History.kept_of_listed (History.listed_next sound.listed change)
  rw [sound.kept_eq]
  refine ⟨numbers, sound.rising, ?_, ?_, ?_⟩
  · intro offset
    exact further (.push offset)
  · intro index present
    obtain ⟨offset, found⟩ := Option.ne_none_iff_exists'.mp present
    obtain ⟨positive, stands⟩ := offsetOf?_eq_some_iff.mp found
    obtain ⟨within, _⟩ := List.getElem?_eq_some_iff.mp stands
    have cut : (now.next (.truncateFrom index)).positions =
        ⟨now.positions.offsets.take (index - 1)⟩ :=
      congrArg Prod.fst (numbers.truncateFrom index offset found)
    refine ⟨by rw [further, cut], ?_⟩
    intro next
    rw [cut, Positions.push, Positions.length, List.length_take]
    omega
  · intro index missing
    rw [further]
    exact congrArg (fun left => left.1.offsets) (numbers.unchanged index missing)

/-- A truncation in the middle, one that names no record, and a push over the cut. -/
theorem kept_offsets_numbered_from_one_behind_cut :
    let changes : List Change :=
      [.push 8, .push 20, .push 31, .truncateFrom 2, .truncateFrom 7, .push 25]
    History.start.Growing changes ∧
      (History.start.after changes).positions.Numbers [8, 25] := by
  intro changes
  have growing : History.start.Growing changes := by decide
  exact ⟨growing, (kept_offsets_numbered_from_one changes growing).1⟩

end FrameLog.Positions
