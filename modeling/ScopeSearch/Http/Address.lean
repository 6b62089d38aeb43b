import ScopeSearch.Number.Numeral
import ScopeSearch.Text.Quoted
import ScopeSearch.Text.Utf8

/-!
# Addresses

An address has a path and a query, in which an octet may be written as a percent sign and two
hexadecimal digits.  Steps of a path that are a dot stay in place, and steps of two dots lead back;
they are left out before escapes are read.  The escapes of a path are read twice, once when the
address is taken apart and once when the request is, so an escaped percent sign may begin another
escape.  A query holds parameters, in which a plus sign is a blank.
-/

set_option autoImplicit false

namespace ScopeSearch

/-- A path and a query as they are written. -/
structure Address where
  path : List Char
  query : List Char := []

namespace Address

/-- A character of an address that needs no escape anywhere. -/
def isPlain (c : Char) : Bool :=
  c.isAlphanum || c == '-' || c == '.' || c == '_' || c == '~'

/-- The escape of an octet. -/
def escapedOctet (n : Nat) : List Char :=
  '%' :: (Text.hexDigits 2 n).map Char.toUpper

/-- A text in which every character that is not plain is escaped. -/
def escaped (s : List Char) : List Char :=
  s.flatMap fun c => if isPlain c then [c] else (Text.encodedOctets [c]).flatMap escapedOctet

/-- The octets of the escapes at the beginning of a text, and what follows them. -/
def leadingEscapes : List Char → List Nat × List Char
  | '%' :: a :: b :: rest =>
    if Number.allDigits 16 [a, b] then
      let (octets, tail) := leadingEscapes rest
      (Number.digitsValue 16 [a, b] :: octets, tail)
    else ([], '%' :: a :: b :: rest)
  | s => ([], s)

/-- A text with its escapes read; every step takes at least one character, so the length of the
text bounds the number of steps. -/
def unescapedWithin : Nat → List Char → List Char
  | _, [] => []
  | 0, _ => []
  | steps + 1, c :: rest =>
    match leadingEscapes (c :: rest) with
    | ([], _) => c :: unescapedWithin steps rest
    | (octets, tail) => Text.decodedOctets octets ++ unescapedWithin steps tail

/-- A text with its escapes read. -/
def unescaped (s : List Char) : List Char :=
  unescapedWithin s.length s

/-- The steps of a path that lead somewhere; `done` holds the steps so far, the last first.  Two
dots at the root stay there. -/
def resolveSteps (done : List (List Char)) : List (List Char) → List (List Char)
  | [] => done.reverse
  | step :: rest =>
    if step = ['.'] then resolveSteps done rest
    else if step = ['.', '.'] then resolveSteps (if done = [[]] then done else done.drop 1) rest
    else resolveSteps (step :: done) rest

/-- A path without steps that stay in place or lead back. -/
def resolvedPath (path : List Char) : List Char :=
  ['/'].intercalate (resolveSteps [] (path.splitOn '/'))

/-- The path that is asked for. -/
def requestedPath (a : Address) : List Char :=
  unescaped (unescaped (resolvedPath a.path))

/-- A parameter in a query. -/
def parameterText (p : String × String) : List Char :=
  escaped p.1.toList ++ '=' :: escaped p.2.toList

/-- Parameters as a query. -/
def queryText (parameters : List (String × String)) : List Char :=
  ['&'].intercalate (parameters.map parameterText)

/-- A name or a value in a query. -/
def queryPart (s : List Char) : String :=
  String.ofList (unescaped (s.map fun c => if c = '+' then ' ' else c))

/-- The parameter that a part of a query writes; one without an equals sign is empty. -/
def parameterOf (s : List Char) : String × String :=
  (queryPart (s.takeWhile (· ≠ '=')), queryPart ((s.dropWhile (· ≠ '=')).drop 1))

/-- The parameters of an address, in order. -/
def parameters (a : Address) : List (String × String) :=
  ((a.query.splitOn '&').filter fun s => !s.isEmpty).map parameterOf

/-- The address of steps from the root with parameters; a slash inside a step does not end it. -/
def ofSteps (steps : List String) (parameters : List (String × String)) : Address :=
  { path := steps.flatMap fun s => '/' :: escaped s.toList, query := queryText parameters }

/-- The address that a text writes: a path up to a question mark, and a query behind it.  A number
sign ends the address. -/
def ofText (s : List Char) : Address :=
  let s := s.takeWhile (· ≠ '#')
  { path := s.takeWhile (· ≠ '?'), query := (s.dropWhile (· ≠ '?')).drop 1 }

/-- The address that a server leads to when it moves a path: the path is written as it was read,
and the query follows it. -/
def moved (a : Address) (path : List Char) : Address :=
  ofText (path ++ if a.query.isEmpty then [] else '?' :: a.query)

end Address

end ScopeSearch
