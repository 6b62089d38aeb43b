import ScopeSearch.Text.Alphanumeric
import ScopeSearch.Text.Blank
import ScopeSearch.Value

/-!
# Redaction of personal data

Search terms hold account numbers, e-mail addresses and phone numbers.  Before a text leaves the
process each of them is masked by asterisks, one for each hidden character, so that the length of
the text stays the same.  The three passes follow one another: account numbers, addresses, phone
numbers.
-/

set_option autoImplicit false

namespace ScopeSearch

namespace Redaction

/-- As many asterisks as there are characters. -/
def masked (s : List Char) : List Char :=
  s.map fun _ => '*'

/-- A text of which the first characters stay and the others are masked. -/
def maskAfter (shown : Nat) (s : List Char) : List Char :=
  s.take shown ++ masked (s.drop shown)

/-- A capital letter of the ASCII alphabet. -/
def isCapital (c : Char) : Bool :=
  'A' ≤ c && c ≤ 'Z'

/-- A character of the part of an account number that follows its check digits. -/
def isAccountChar (c : Char) : Bool :=
  isCapital c || c.isDigit

/-- The greatest length of the part of an account number that follows its check digits. -/
def accountTailLimit : Nat := 30

/-- The length of the account number at the beginning of a text, zero if there is none: two
capitals, two digits of any script, and up to thirty capitals or digits. -/
def accountLength : List Char → Nat
  | a :: b :: c :: d :: rest =>
    let tail := ((rest.take accountTailLimit).takeWhile isAccountChar).length
    if isCapital a && isCapital b && Text.isDigit c && Text.isDigit d && tail != 0 then 4 + tail
    else 0
  | _ => 0

/-- A character inside a phone number. -/
def isPhoneChar (c : Char) : Bool :=
  Text.isDigit c || c == ' ' || c == '-' || c == '/'

/-- The least number of characters that follow the first digit of a phone number. -/
def phoneTailLeast : Nat := 6

/-- The length of the digits of a phone number at the beginning of a text, zero if there are
none. -/
def phoneDigitsLength : List Char → Nat
  | [] => 0
  | c :: rest =>
    let tail := (rest.takeWhile isPhoneChar).length
    if Text.isDigit c && phoneTailLeast ≤ tail then 1 + tail else 0

/-- The length of the phone number at the beginning of a text, zero if there is none: a digit, with
or without a plus sign in front, and at least six digits, blanks, hyphens or slashes. -/
def phoneLength : List Char → Nat
  | '+' :: rest => if phoneDigitsLength rest = 0 then 0 else 1 + phoneDigitsLength rest
  | s => phoneDigitsLength s

/-- Masks the parts whose lengths `measure` finds, from left to right, each after its first two
characters; `hidden` counts the characters of the present part that are still to mask, `shown`
those that are still to keep. -/
def maskRuns (measure : List Char → Nat) : Nat → Nat → List Char → List Char
  | _, _, [] => []
  | shown + 1, hidden, c :: rest => c :: maskRuns measure shown hidden rest
  | 0, hidden + 1, _ :: rest => '*' :: maskRuns measure 0 hidden rest
  | 0, 0, c :: rest =>
    match measure (c :: rest) with
    | 0 => c :: maskRuns measure 0 0 rest
    | n + 1 => c :: maskRuns measure (min 1 n) (n - 1) rest

/-- A point with a character on either side of it stands in the text. -/
def pointInside : List Char → Bool
  | _ :: '.' :: _ :: _ => true
  | _ :: rest => pointInside rest
  | [] => false

/-- An at sign stands in the text, and a point with a character on either side after it. -/
def domainInside : List Char → Bool
  | [] => false
  | c :: rest => (c == '@' && pointInside rest) || domainInside rest

/-- An address fills a text: after a character an at sign, and after that a point with a character
on either side. -/
def isAddress (s : List Char) : Bool :=
  domainInside (s.drop 1)

/-- The part of an address in front of its first at sign is masked after its first character; a
single character is masked as well. -/
def maskAddress (s : List Char) : List Char :=
  let user := s.takeWhile (· ≠ '@')
  maskAfter (if user.length ≤ 1 then 0 else 1) user ++ s.dropWhile (· ≠ '@')

/-- The address inside a text without blanks is masked: it reaches from the first word character
to the last. -/
def maskToken (s : List Char) : List Char :=
  let core := Text.trim (fun c => !Text.isWord c) s
  if isAddress core then
    s.takeWhile (fun c => !Text.isWord c) ++ maskAddress core ++
      (s.reverse.takeWhile fun c => !Text.isWord c).reverse
  else s

/-- A text in which every maximal run of characters other than blanks is replaced. -/
def mapTokens (f : List Char → List Char) (s : List Char) : List Char :=
  match s with
  | [] => []
  | c :: rest =>
    if Text.isBlank c then c :: mapTokens f rest
    else f (c :: rest.takeWhile fun x => !Text.isBlank x) ++
      mapTokens f (rest.dropWhile fun x => !Text.isBlank x)
termination_by s.length
decreasing_by
  · simp
  · have := (List.dropWhile_suffix (fun x => !Text.isBlank x) (l := rest)).length_le
    simp only [List.length_cons]
    omega

/-- A text with every account number masked after its first two characters. -/
def maskAccounts (s : List Char) : List Char :=
  maskRuns accountLength 0 0 s

/-- A text with every e-mail address masked. -/
def maskAddresses (s : List Char) : List Char :=
  mapTokens maskToken s

/-- A text with every phone number masked after its first two characters. -/
def maskPhones (s : List Char) : List Char :=
  maskRuns phoneLength 0 0 s

/-- A text without personal data. -/
def redactChars (s : List Char) : List Char :=
  maskPhones (maskAddresses (maskAccounts s))

end Redaction

/-- A text without personal data. -/
def redact (s : String) : String :=
  String.ofList (Redaction.redactChars s.toList)

mutual

/-- A value whose texts are redacted, through lists and tuples, which become lists; other values
stay as they are. -/
def redactValue : Value → Value
  | .text s => .text (redact s)
  | .textMember s => .text (redact s)
  | .list items => .list (redactValues items)
  | .tuple items => .list (redactValues items)
  | v => v

/-- Values whose texts are redacted. -/
def redactValues : List Value → List Value
  | [] => []
  | v :: rest => redactValue v :: redactValues rest

end

end ScopeSearch
