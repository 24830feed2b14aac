import FrameLog.Text.Hex

/-!
# Terminal control characters made visible

Text from outside, such as a path, has the control characters that a terminal obeys
written out; line ends and tabs stay.
-/

set_option autoImplicit false

namespace FrameLog.Text

/-- Bell, backspace, form feed, escape and delete. -/
def controlCodes : List Nat := [0x07, 0x08, 0x0C, 0x1B, 0x7F]

def ObeyedByTerminal (character : Char) : Prop :=
  character.toNat ∈ controlCodes ∨ 0x80 ≤ character.toNat ∧ character.toNat ≤ 0x9F

instance (character : Char) : Decidable (ObeyedByTerminal character) :=
  inferInstanceAs (Decidable (_ ∨ _ ∧ _))

def visibleCharacter (character : Char) : List Char :=
  if ObeyedByTerminal character then
    let digits := hexDigits 2 character.toNat
    if character.toNat < 0x80 then '\\' :: 'x' :: digits
    else '\\' :: 'u' :: '{' :: digits ++ ['}']
  else [character]

def visible (text : String) : String := String.ofList (text.toList.flatMap visibleCharacter)

example : visible "a\x07\x1b\x85\t\n" = "a\\x07\\x1b\\u\x7b85\x7d\t\n" := by
  decide +kernel

end FrameLog.Text
