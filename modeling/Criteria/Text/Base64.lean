set_option autoImplicit false
set_option relaxedAutoImplicit false

/-!
# Bytes in base 64

Each of sixty-four signs stands for six bits, and each eight bits are a byte. Other characters are
passed over, and padding ends the text once it stands for all the bits that are left.
-/

namespace Criteria.Text

def base64Value? (c : Char) : Option Nat :=
  if 'A' ≤ c && c ≤ 'Z' then some (c.toNat - 65)
  else if 'a' ≤ c && c ≤ 'z' then some (c.toNat - 71)
  else if '0' ≤ c && c ≤ '9' then some (c.toNat + 4)
  else if c == '+' then some 62
  else if c == '/' then some 63
  else none

/-- Read bytes, given how many bits are left, their value, and the count of padding after them. -/
def readBase64 (bits left pads : Nat) : List Char → Option (List UInt8)
  | [] => if bits == 0 then some [] else none
  | c :: rest =>
    if c == '=' then
      if bits == 0 || bits == 6 then readBase64 bits left pads rest
      else if bits ≤ 2 * (pads + 1) then some []
      else readBase64 bits left (pads + 1) rest
    else
      match base64Value? c with
      | none => readBase64 bits left pads rest
      | some value =>
        if bits == 0 then readBase64 6 value 0 rest
        else
          let unit := Nat.pow 2 (bits - 2)
          let all := left * 64 + value
          (readBase64 (bits - 2) (all % unit) 0 rest).map (UInt8.ofNat (all / unit) :: ·)

def ofBase64? (text : String) : Option (List UInt8) := readBase64 0 0 0 text.toList

end Criteria.Text
