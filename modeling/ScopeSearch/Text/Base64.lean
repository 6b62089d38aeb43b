/-!
# Base 64

Four characters of an alphabet of sixty-four stand for three octets.  Characters outside the
alphabet are skipped.  The last group may be short, and then is filled up with equals signs, behind
which nothing is read.
-/

set_option autoImplicit false

namespace ScopeSearch.Text

/-- The six bits that a character of the alphabet stands for. -/
def sixBits? (c : Char) : Option Nat :=
  if 'A' ≤ c ∧ c ≤ 'Z' then some (c.toNat - 65)
  else if 'a' ≤ c ∧ c ≤ 'z' then some (c.toNat - 71)
  else if '0' ≤ c ∧ c ≤ '9' then some (c.toNat + 4)
  else if c = '+' then some 62
  else if c = '/' then some 63
  else none

/-- The octets of the rest of a text.  `position` characters of the present group have been read,
`left` holds the bits of them that no octet has yet, and `filled` equals signs follow them. -/
def base64From (position left filled : Nat) : List Char → Option (List UInt8)
  | [] => if position = 0 then some [] else none
  | c :: rest =>
    if c = '=' ∧ 2 ≤ position then
      if position + filled = 3 then some [] else base64From position left (filled + 1) rest
    else
      match sixBits? c, position with
      | none, _ => base64From position left filled rest
      | some bits, 0 => base64From 1 bits 0 rest
      | some bits, 1 =>
        (base64From 2 (bits % 16) 0 rest).map (UInt8.ofNat (left * 4 + bits / 16) :: ·)
      | some bits, 2 =>
        (base64From 3 (bits % 4) 0 rest).map (UInt8.ofNat (left * 16 + bits / 4) :: ·)
      | some bits, _ => (base64From 0 0 0 rest).map (UInt8.ofNat (left * 64 + bits) :: ·)

/-- The octets that a text in base 64 stands for, unless its last group is short. -/
def base64? (s : List Char) : Option (List UInt8) :=
  base64From 0 0 0 s

end ScopeSearch.Text
