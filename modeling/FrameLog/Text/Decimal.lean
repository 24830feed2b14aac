/-!
# Decimal numbers in text

At least one ASCII digit, with leading zeros allowed and no separators.
-/

set_option autoImplicit false

namespace FrameLog.Text

def digits? (characters : List Char) : Option Nat :=
  if characters.isEmpty || !characters.all Char.isDigit then none
  else some (characters.foldl (fun value digit => value * 10 + (digit.toNat - '0'.toNat)) 0)

def natural? (text : String) : Option Nat :=
  match text.toList with
  | '+' :: digits => digits? digits
  | digits => digits? digits

def integer? (text : String) : Option Int :=
  match text.toList with
  | '-' :: digits => (digits? digits).map fun magnitude => -(magnitude : Int)
  | _ => (natural? text).map Int.ofNat

example : natural? "+007" = some 7 ∧ natural? "" = none ∧ natural? "+" = none ∧
    natural? "-0" = none ∧ natural? "1_0" = none ∧ integer? "-0" = some 0 := by
  decide +kernel

end FrameLog.Text
