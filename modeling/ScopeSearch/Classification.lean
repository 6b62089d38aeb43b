import ScopeSearch.Authorization
import ScopeSearch.Candidate
import ScopeSearch.Event

/-!
# Classification of search terms

Each token of a term is read on its own, as a word or as a directive.  A token stands for a
directive when it is a candidate within the bound on positions, the resource has the scope, and the
policy approves it; in every other case the token stays a word.  Classification never fails.
-/

set_option autoImplicit false

namespace ScopeSearch

/-- How one token was read. -/
inductive Reading where
  /-- A token that is no candidate, or stands past the bound. -/
  | word (token : String)
  /-- A candidate that stays a word. -/
  | demoted (token : String) (d : Directive) (reason : Demotion)
  /-- A candidate that is applied. -/
  | accepted (d : Directive)
  deriving DecidableEq

namespace Reading

/-- The word that a token stays. -/
def word? : Reading → Option String
  | word token => some token
  | demoted token _ _ => some token
  | accepted _ => none

/-- The directive that a token stands for. -/
def directive? : Reading → Option Directive
  | accepted d => some d
  | _ => none

/-- The scope that the resource was asked for. -/
def asked? : Reading → Option String
  | word _ => none
  | demoted _ d _ => some d.name
  | accepted d => some d.name

/-- The event that a demotion is reported by. -/
def event? : Reading → Option Event
  | demoted _ d reason => some (.scopeDemoted d.name reason)
  | _ => none

/-- How a token within the bound is read. -/
def ofToken (policy : ScopePolicy) (responds : String → Bool) (token : String) : Reading :=
  match Directive.candidate? token with
  | none => word token
  | some d =>
    if !responds d.name then demoted token d .noCapability
    else if !authorizes policy d then demoted token d .notAuthorized
    else accepted d

end Reading

/-- A position is within a bound; there is no bound when it is missing or zero. -/
def withinBound (bound : Option Int) (position : Nat) : Bool :=
  match bound with
  | none => true
  | some m => m == 0 || (position : Int) < m

/-- How the tokens of a term are read, in order. -/
def readings (policy : ScopePolicy) (responds : String → Bool) (bound : Option Int)
    (tokens : List String) : List Reading :=
  tokens.mapIdx fun position token =>
    if withinBound bound position then Reading.ofToken policy responds token
    else .word token

/-- A classified term, with the scopes that the resource was asked for and what was reported. -/
structure Classification where
  words : List String
  directives : List Directive
  asked : List String
  events : List Event
  deriving DecidableEq

/-- The parts of a term, once its tokens are read. -/
def Classification.ofReadings (rs : List Reading) : Classification :=
  { words := rs.filterMap Reading.word?
    directives := rs.filterMap Reading.directive?
    asked := rs.filterMap Reading.asked?
    events := rs.filterMap Reading.event? }

/-- The tokens of a term, none for a missing one. -/
def termTokens : Option String → List String
  | none => []
  | some term => Text.split term

/-- The classification of a term. -/
def classify (term : Option String) (policy : ScopePolicy) (responds : String → Bool)
    (bound : Option Int) : Classification :=
  .ofReadings (readings policy responds bound (termTokens term))

end ScopeSearch
