/-!
# Reading octets as UTF-8

A character takes one to four octets: the first tells how many, and the second lies in a range that
the first one chooses.  Octets that are no character do not stop the reading: the longest part of a
character that is there, or else one octet, is read as the replacement character.
-/

set_option autoImplicit false

namespace ScopeSearch.Text

/-- The character that stands for octets that are no character. -/
def replacementCharacter : Char := Char.ofNat 0xFFFD

/-- What a first octet announces: the number of octets that follow it, the least and the greatest
second octet, and its share of the code point. -/
structure LeadOctet where
  following : Nat
  low : Nat := 0x80
  high : Nat := 0xBF
  bits : Nat

/-- The first octet of a character beyond ASCII. -/
def LeadOctet.ofOctet? (n : Nat) : Option LeadOctet :=
  if 0xC2 ≤ n ∧ n ≤ 0xDF then some { following := 1, bits := n - 0xC0 }
  else if n = 0xE0 then some { following := 2, low := 0xA0, bits := 0 }
  else if n = 0xED then some { following := 2, high := 0x9F, bits := 0xD }
  else if 0xE1 ≤ n ∧ n ≤ 0xEF then some { following := 2, bits := n - 0xE0 }
  else if n = 0xF0 then some { following := 3, low := 0x90, bits := 0 }
  else if 0xF1 ≤ n ∧ n ≤ 0xF3 then some { following := 3, bits := n - 0xF0 }
  else if n = 0xF4 then some { following := 3, high := 0x8F, bits := 4 }
  else none

/-- The code point of a character whose first octets gave `bits`, if it is complete, and the octets
behind what is there of it. -/
def followingOctets : Nat → Nat → Nat → Nat → List Nat → Option Nat × List Nat
  | 0, _, _, bits, octets => (some bits, octets)
  | _ + 1, _, _, _, [] => (none, [])
  | more + 1, low, high, bits, o :: octets =>
    if low ≤ o ∧ o ≤ high then followingOctets more 0x80 0xBF (bits * 64 + (o - 0x80)) octets
    else (none, o :: octets)

/-- The characters of octets; every character takes at least one, so their number bounds the number
of steps. -/
def decodedWithin : Nat → List Nat → List Char
  | _, [] => []
  | 0, _ => []
  | steps + 1, o :: octets =>
    if o < 0x80 then Char.ofNat o :: decodedWithin steps octets
    else match LeadOctet.ofOctet? o with
      | none => replacementCharacter :: decodedWithin steps octets
      | some lead =>
        let (found, rest) := followingOctets lead.following lead.low lead.high lead.bits octets
        (found.map Char.ofNat).getD replacementCharacter :: decodedWithin steps rest

/-- The characters of octets. -/
def decodedOctets (octets : List Nat) : List Char :=
  decodedWithin octets.length octets

/-- The octets of a text. -/
def encodedOctets (s : List Char) : List Nat :=
  (String.ofList s).toUTF8.toList.map UInt8.toNat

end ScopeSearch.Text
