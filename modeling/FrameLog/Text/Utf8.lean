import FrameLog.Bytes

/-!
# UTF-8

Any octets can be shown as text: every longest run of octets that starts a character without
completing it, and every octet that starts none, is shown as one replacement character.
-/

set_option autoImplicit false

namespace FrameLog.Utf8

def encode (text : String) : Bytes := text.toList.flatMap String.utf8EncodeChar

/-! ## Decoding -/

/-- A character of which some octets are still to come. -/
structure Unfinished where
  /-- How many octets follow the next one. -/
  behind : Nat
  /-- The range of the next octet. Right behind a lead octet it excludes the encodings of
  surrogates, of what a shorter form could say, and of what is past the last character. -/
  least : Nat
  greatest : Nat
  bits : Nat

def replacement : Char := '\uFFFD'

/-- The characters an octet completes, and the one it starts. -/
def start (octet : Nat) : List Char × Option Unfinished :=
  if octet < 0x80 then ([Char.ofNat octet], none)
  else if octet < 0xC2 then ([replacement], none)
  else if octet < 0xE0 then ([], some ⟨0, 0x80, 0xBF, octet - 0xC0⟩)
  else if octet < 0xF0 then
    ([], some ⟨1, if octet = 0xE0 then 0xA0 else 0x80, if octet = 0xED then 0x9F else 0xBF,
      octet - 0xE0⟩)
  else if octet < 0xF5 then
    ([], some ⟨2, if octet = 0xF0 then 0x90 else 0x80, if octet = 0xF4 then 0x8F else 0xBF,
      octet - 0xF0⟩)
  else ([replacement], none)

/-- One more octet. One that does not continue the character begun is looked at again as
the start of the next. -/
def accept : Option Unfinished → Nat → List Char × Option Unfinished
  | none, octet => start octet
  | some unfinished, octet =>
      if unfinished.least ≤ octet ∧ octet ≤ unfinished.greatest then
        let bits := unfinished.bits * 64 + (octet - 0x80)
        match unfinished.behind with
        | 0 => ([Char.ofNat bits], none)
        | behind + 1 => ([], some ⟨behind, 0x80, 0xBF, bits⟩)
      else
        let (shown, next) := start octet
        (replacement :: shown, next)

def decodeFrom (unfinished : Option Unfinished) : Bytes → List Char
  | [] => if unfinished.isSome then [replacement] else []
  | octet :: octets =>
      let (shown, next) := accept unfinished octet.toNat
      shown ++ decodeFrom next octets

def decode (octets : Bytes) : String := String.ofList (decodeFrom none octets)

/-! ## Decoding what was encoded -/

theorem accept_last {least greatest bits octet : Nat}
    (within : least ≤ octet ∧ octet ≤ greatest) :
    accept (some ⟨0, least, greatest, bits⟩) octet =
      ([Char.ofNat (bits * 64 + (octet - 0x80))], none) := by
  simp only [accept, if_pos within]

theorem accept_inner {behind least greatest bits octet : Nat}
    (within : least ≤ octet ∧ octet ≤ greatest) :
    accept (some ⟨behind + 1, least, greatest, bits⟩) octet =
      ([], some ⟨behind, 0x80, 0xBF, bits * 64 + (octet - 0x80)⟩) := by
  simp only [accept, if_pos within]

theorem start_two {octet : Nat} (least : 0xC2 ≤ octet) (below : octet < 0xE0) :
    start octet = ([], some ⟨0, 0x80, 0xBF, octet - 0xC0⟩) := by
  rw [start, if_neg (by omega), if_neg (by omega), if_pos below]

theorem start_three {octet : Nat} (least : 0xE0 ≤ octet) (below : octet < 0xF0) :
    start octet = ([], some ⟨1, if octet = 0xE0 then 0xA0 else 0x80,
      if octet = 0xED then 0x9F else 0xBF, octet - 0xE0⟩) := by
  rw [start, if_neg (by omega), if_neg (by omega), if_neg (by omega), if_pos below]

theorem start_four {octet : Nat} (least : 0xF0 ≤ octet) (below : octet < 0xF5) :
    start octet = ([], some ⟨2, if octet = 0xF0 then 0x90 else 0x80,
      if octet = 0xF4 then 0x8F else 0xBF, octet - 0xF0⟩) := by
  rw [start, if_neg (by omega), if_neg (by omega), if_neg (by omega), if_neg (by omega),
    if_pos below]

theorem decodeFrom_character (character : Char) (rest : Bytes) :
    decodeFrom none (String.utf8EncodeChar character ++ rest) =
      character :: decodeFrom none rest := by
  have back : Char.ofNat character.val.toNat = character := Char.ofNat_toNat character
  have valid : character.val.toNat < 0xD800 ∨
      0xDFFF < character.val.toNat ∧ character.val.toNat < 0x110000 := character.valid
  unfold String.utf8EncodeChar
  generalize character.val.toNat = scalar at back valid ⊢
  have octet (value : Nat) (below : value < 256) : (UInt8.ofNat value).toNat = value := by
    simp only [UInt8.toNat_ofNat']
    omega
  have trail : 0x80 ≤ scalar % 64 + 128 ∧ scalar % 64 + 128 ≤ 0xBF := by omega
  by_cases one : scalar ≤ 127
  · simp only [if_pos one, List.cons_append, List.nil_append, decodeFrom, accept, start,
      octet scalar (by omega), if_pos (show scalar < 0x80 by omega), back]
  by_cases two : scalar ≤ 2047
  · simp only [if_neg one, if_pos two, List.cons_append, List.nil_append, decodeFrom]
    rw [octet _ (by omega), octet _ (by omega), accept, start_two (by omega) (by omega)]
    simp only [accept_last trail, List.nil_append, List.cons_append,
      show (scalar / 64 % 32 + 192 - 0xC0) * 64 + (scalar % 64 + 128 - 0x80) = scalar by omega,
      back]
  by_cases three : scalar ≤ 65535
  · have second : (if scalar / 4096 % 16 + 224 = 0xE0 then 0xA0 else 0x80) ≤
        scalar / 64 % 64 + 128 ∧ scalar / 64 % 64 + 128 ≤
          (if scalar / 4096 % 16 + 224 = 0xED then 0x9F else 0xBF) := by
      split <;> split <;> omega
    simp only [if_neg one, if_neg two, if_pos three, List.cons_append, List.nil_append,
      decodeFrom]
    rw [octet _ (by omega), octet _ (by omega), octet _ (by omega), accept,
      start_three (by omega) (by omega)]
    simp only [accept_inner second, accept_last trail, List.nil_append, List.cons_append,
      show ((scalar / 4096 % 16 + 224 - 0xE0) * 64 + (scalar / 64 % 64 + 128 - 0x80)) * 64 +
        (scalar % 64 + 128 - 0x80) = scalar by omega, back]
  · have second : (if scalar / 262144 % 8 + 240 = 0xF0 then 0x90 else 0x80) ≤
        scalar / 4096 % 64 + 128 ∧ scalar / 4096 % 64 + 128 ≤
          (if scalar / 262144 % 8 + 240 = 0xF4 then 0x8F else 0xBF) := by
      split <;> split <;> omega
    have third : 0x80 ≤ scalar / 64 % 64 + 128 ∧ scalar / 64 % 64 + 128 ≤ 0xBF := by omega
    simp only [if_neg one, if_neg two, if_neg three, List.cons_append, List.nil_append,
      decodeFrom]
    rw [octet _ (by omega), octet _ (by omega), octet _ (by omega), octet _ (by omega), accept,
      start_four (by omega) (by omega)]
    simp only [accept_inner second, accept_inner third, accept_last trail, List.nil_append,
      List.cons_append,
      show (((scalar / 262144 % 8 + 240 - 0xF0) * 64 + (scalar / 4096 % 64 + 128 - 0x80)) * 64 +
        (scalar / 64 % 64 + 128 - 0x80)) * 64 + (scalar % 64 + 128 - 0x80) = scalar by omega,
      back]

theorem decode_encode (text : String) : decode (encode text) = text := by
  have loop : ∀ characters : List Char,
      decodeFrom none (characters.flatMap String.utf8EncodeChar) = characters := by
    intro characters
    induction characters with
    | nil => rfl
    | cons character characters ih =>
        rw [List.flatMap_cons, decodeFrom_character, ih]
  rw [decode, encode, loop, String.ofList_toList]

end FrameLog.Utf8
