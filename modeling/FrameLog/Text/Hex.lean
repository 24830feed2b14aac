/-!
# Hexadecimal text
-/

set_option autoImplicit false

namespace FrameLog.Text

/-- The last `places` digits, most significant first. -/
def hexDigits : (places value : Nat) → List Char
  | 0, _ => []
  | places + 1, value => hexDigits places (value / 16) ++ [Nat.digitChar (value % 16)]

def hexWord (word : UInt32) : String :=
  "0x" ++ String.ofList (hexDigits 8 word.toNat)

def hexOctets (octets : List UInt8) : String :=
  String.ofList (octets.flatMap fun octet => hexDigits 2 octet.toNat)

end FrameLog.Text
