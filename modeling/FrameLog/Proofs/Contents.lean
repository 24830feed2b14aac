import FrameLog.PlainLog

/-!
# Writing into contents

What `overlay`, `resize` and the transfers under a ceiling do to contents that are known to
be one part followed by another. A write that the ceiling permits replaces the start of the
second part; one that it does not permit moves a leading piece of the buffer and fails.
Laying over is also described octet by octet, and writing or reading in two parts as one.
-/

set_option autoImplicit false

namespace FrameLog

namespace Bytes

theorem resize_of_le {contents : Bytes} {length : Nat} (within : length ≤ contents.length) :
    contents.resize length = contents.take length := by
  have exact_length : (contents.take length).length = length := by
    rw [List.length_take]
    omega
  simp [resize, List.rightpad, exact_length]

@[simp] theorem resize_append_left (front behind : Bytes) :
    (front ++ behind).resize front.length = front := by
  rw [resize_of_le (by simp), List.take_left]

/-- Octets written where the front ends cover as much of what stood behind it. -/
theorem overlay_append (front behind written : Bytes) :
    (front ++ behind).overlay front.length written =
      front ++ (written ++ behind.drop written.length) := by
  cases written with
  | nil => simp [overlay]
  | cons octet written =>
      have covered : (front ++ behind).drop (front.length + (octet :: written).length) =
          behind.drop (octet :: written).length := by
        rw [← List.drop_drop, List.drop_left]
      rw [overlay, covered, resize_append_left, List.append_assoc]
      rfl

theorem overlay_of_le {contents written : Bytes} {offset : Nat}
    (within : offset ≤ contents.length) :
    contents.overlay offset written =
      contents.take offset ++ (written ++ contents.drop (offset + written.length)) := by
  have laid := overlay_append (contents.take offset) (contents.drop offset) written
  rwa [List.take_append_drop, List.length_take, Nat.min_eq_left within, List.drop_drop] at laid

theorem overlay_middle {middle written : Bytes} {offset : Nat}
    (within : offset + written.length ≤ middle.length) (front behind : Bytes) :
    (front ++ (middle ++ behind)).overlay (front.length + offset) written =
      front ++ (middle.overlay offset written ++ behind) := by
  have reaches : front.length + offset ≤ (front ++ (middle ++ behind)).length := by
    simp only [List.length_append]
    omega
  rw [overlay_of_le reaches, overlay_of_le (by omega), List.take_length_add_append,
    List.take_append_of_le_length (by omega), Nat.add_assoc, List.drop_length_add_append,
    List.drop_append_of_le_length within]
  simp only [List.append_assoc]

/-- What was written stands where it was written, whatever the contents were. -/
theorem prefix_drop_overlay (contents : Bytes) (offset : Nat) (written : Bytes) :
    written <+: (contents.overlay offset written).drop offset := by
  cases written with
  | nil => exact List.nil_prefix
  | cons octet written =>
      have before : (contents.resize offset).length = offset := length_resize contents offset
      have laid : (contents.overlay offset (octet :: written)).drop offset =
          octet :: written ++ contents.drop (offset + (octet :: written).length) := by
        simp only [overlay, List.isEmpty_cons, Bool.false_eq_true, if_false, List.append_assoc]
        exact List.drop_left' before
      rw [laid]
      exact List.prefix_append _ _

theorem length_overlay_of_le {contents written : Bytes} {offset : Nat}
    (within : offset + written.length ≤ contents.length) :
    (contents.overlay offset written).length = contents.length := by
  rw [overlay_of_le (by omega)]
  simp only [List.length_append, List.length_take, List.length_drop]
  omega

/-! ## Octet by octet, and part by part -/

/-- Two writes, the second where the first one ended, are one write. -/
theorem overlay_overlay (contents : Bytes) (offset : Nat) (first second : Bytes) :
    (contents.overlay offset first).overlay (offset + first.length) second =
      contents.overlay offset (first ++ second) := by
  cases first with
  | nil => rfl
  | cons octet first =>
      have laid (rest : Bytes) : contents.overlay offset (octet :: rest) =
          contents.resize offset ++ octet :: rest ++
            contents.drop (offset + (octet :: rest).length) := rfl
      have reached : offset + (octet :: first).length =
          (contents.resize offset ++ octet :: first).length := by
        rw [List.length_append, length_resize]
      have behind : offset + (octet :: (first ++ second)).length =
          offset + (octet :: first).length + second.length := by
        simp only [List.length_cons, List.length_append]
        omega
      calc (contents.overlay offset (octet :: first)).overlay
              (offset + (octet :: first).length) second
          = contents.resize offset ++ octet :: first ++
              (second ++ (contents.drop (offset + (octet :: first).length)).drop
                second.length) := by
            rw [laid, reached, overlay_append]
        _ = contents.overlay offset (octet :: first ++ second) := by
            rw [List.drop_drop, List.cons_append, laid, behind]
            simp only [List.append_assoc, List.cons_append]

theorem getElem?_resize (contents : Bytes) {length position : Nat} (inside : position < length) :
    (contents.resize length)[position]? = some (contents.getD position 0) := by
  rw [resize, List.rightpad, List.getElem?_append, List.length_take,
    List.getElem?_take_of_lt inside, List.getD_eq_getElem?_getD]
  by_cases held : position < contents.length
  · have within : position < min length contents.length := by omega
    rw [if_pos within, List.getElem?_eq_getElem held]
    rfl
  · have beyond : ¬ position < min length contents.length := by omega
    have padded : position - min length contents.length < length - min length contents.length := by
      omega
    rw [if_neg beyond, List.getElem?_replicate_of_lt padded,
      List.getElem?_eq_none (Nat.le_of_not_lt held)]
    rfl

/-- Octet by octet: those written where they were written, zeros in a gap, the rest as it was. -/
theorem getElem?_overlay (contents : Bytes) (offset : Nat) (written : Bytes) (position : Nat) :
    (contents.overlay offset written)[position]? =
      if written = [] ∨ offset + written.length ≤ position then contents[position]?
      else if position < offset then some (contents.getD position 0)
      else written[position - offset]? := by
  by_cases nothing : written = []
  · rw [nothing, if_pos (.inl rfl)]
    rfl
  rw [overlay, if_neg (mt List.isEmpty_iff.mp nothing), List.append_assoc]
  rcases Nat.lt_or_ge position offset with before | behind
  · have outside : ¬ (written = [] ∨ offset + written.length ≤ position) := by
      simp only [nothing, false_or]
      omega
    rw [if_neg outside, if_pos before, List.getElem?_append_left (by rwa [length_resize]),
      getElem?_resize contents before]
  · rw [List.getElem?_append_right (by rwa [length_resize]), length_resize]
    by_cases past : offset + written.length ≤ position
    · rw [if_pos (.inr past), List.getElem?_append_right (by omega), List.getElem?_drop]
      congr 1
      omega
    · rw [if_neg (by simp [nothing, past]), if_neg (Nat.not_lt.mpr behind),
        List.getElem?_append_left (by omega)]

/-- Octets read from `offset` on, and behind them those that are still to be read. -/
theorem append_window {contents arrived : Bytes} {offset count : Nat}
    (leading : arrived <+: contents.drop offset) (within : arrived.length ≤ count) :
    arrived ++ contents.window (offset + arrived.length) (count - arrived.length) =
      contents.window offset count := by
  obtain ⟨behind, parted⟩ := leading
  rw [window, window, ← List.drop_drop, ← parted, List.drop_left, List.take_append,
    List.take_of_length_le within]

end Bytes

namespace Transfer

open PlainLog (Permits)

theorem write_of_permits {ceiling : Option Nat} {contents buffer : Bytes} {offset : Nat}
    (permitted : Permits ceiling (offset + buffer.length)) :
    write ceiling contents offset buffer = ⟨contents.overlay offset buffer, none⟩ := by
  have whole : writeAll none [] contents offset buffer =
      ⟨contents.overlay offset buffer, none⟩ := by
    cases buffer with
    | nil => rfl
    | cons octet buffer => rfl
  cases ceiling with
  | none => exact whole
  | some most =>
      have below : offset + buffer.length ≤ most := permitted most rfl
      simp only [write, below, if_true, whole]

/-- A write past the ceiling fails after the octets that fit below it, if any. -/
theorem write_past_ceiling {most offset : Nat} {buffer : Bytes}
    (beyond : most < offset + buffer.length) (nonempty : buffer ≠ []) (contents : Bytes) :
    write (some most) contents offset buffer =
      ⟨contents.overlay offset (buffer.take (most - offset)), some .fileTooLarge⟩ := by
  have above : ¬ offset + buffer.length ≤ most := by omega
  have occupied : buffer.isEmpty = false := by
    simpa [List.isEmpty_eq_false_iff] using nonempty
  by_cases starts : offset < most
  · have someMoved : ¬ most - offset = 0 := by omega
    have someLeft : (buffer.drop (most - offset)).isEmpty = false := by
      simp only [List.isEmpty_eq_false_iff, ne_eq, List.drop_eq_nil_iff]
      omega
    simp [write, above, starts, writeAll, occupied, someMoved, someLeft]
  · have noneMoved : most - offset = 0 := by omega
    simp [write, above, starts, writeAll, occupied, noneMoved, Bytes.overlay]

theorem write_of_not_permits {ceiling : Option Nat} {buffer : Bytes} {offset : Nat}
    (forbidden : ¬ Permits ceiling (offset + buffer.length)) (nonempty : buffer ≠ [])
    (contents : Bytes) :
    ∃ moved, write ceiling contents offset buffer =
      ⟨contents.overlay offset (buffer.take moved), some .fileTooLarge⟩ := by
  cases ceiling with
  | none =>
      exact absurd (fun most (member : most ∈ none) => by cases member) forbidden
  | some most =>
      have beyond : most < offset + buffer.length := by
        apply Nat.lt_of_not_le
        intro below
        apply forbidden
        intro other member
        cases member
        exact below
      exact ⟨_, write_past_ceiling beyond nonempty contents⟩

theorem setLength_of_permits {ceiling : Option Nat} {contents : Bytes} {length : Nat}
    (permitted : contents.length < length → Permits ceiling length) :
    setLength ceiling contents length = ⟨contents.resize length, none⟩ := by
  cases ceiling with
  | none => rfl
  | some most =>
      have granted : ¬ (contents.length < length ∧ most < length) := by
        rintro ⟨grows, past⟩
        exact absurd past (Nat.not_lt.mpr (permitted grows most rfl))
      simp only [setLength, granted, if_false]

theorem setLength_of_not_permits {ceiling : Option Nat} {contents : Bytes} {length : Nat}
    (grows : contents.length < length) (forbidden : ¬ Permits ceiling length) :
    setLength ceiling contents length = ⟨contents, some .fileTooLarge⟩ := by
  cases ceiling with
  | none => exact absurd (PlainLog.permits_none length) forbidden
  | some most =>
      have past : most < length := by
        refine Nat.lt_of_not_le fun within => forbidden ?_
        rintro _ ⟨⟩
        exact within
      simp only [setLength, grows, past, and_self, if_true]

theorem setLength_of_le {ceiling : Option Nat} {contents : Bytes} {length : Nat}
    (within : length ≤ contents.length) :
    setLength ceiling contents length = ⟨contents.take length, none⟩ := by
  rw [setLength_of_permits fun grows => absurd grows (Nat.not_lt.mpr within),
    Bytes.resize_of_le within]

end Transfer

end FrameLog
