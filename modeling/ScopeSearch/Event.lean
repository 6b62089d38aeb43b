import ScopeSearch.Value

/-!
# Events

What the library reports while it works.  An event belongs to a channel, has a level and a message,
and carries named fields.
-/

set_option autoImplicit false

namespace ScopeSearch

/-- Why a candidate became a plain word. -/
inductive Demotion where
  | noCapability
  | notAuthorized
  deriving DecidableEq, Inhabited

/-- The name of a reason. -/
def Demotion.name : Demotion → String
  | .noCapability => "no_capability"
  | .notAuthorized => "not_authorized"

/-- The requests that are answered over HTTP. -/
inductive Endpoint where
  | parse
  | run
  deriving DecidableEq, Inhabited

/-- What happened. -/
inductive Event where
  /-- A candidate became a plain word. -/
  | scopeDemoted (scope : String) (reason : Demotion)
  /-- A term was interpreted. -/
  | searchParsed (resource : String) (words : Nat) (scopes : List String)
  /-- A statement returned rows. -/
  | searchExecuted (table : String) (count : Nat) (scopes : List String)
  /-- A configuration file was loaded. -/
  | registryLoaded (source : String) (count : Nat)
  /-- A request was answered. -/
  | served (endpoint : Endpoint) (resource : String) (count : Nat) (traceId : String)
  /-- The server took a request. -/
  | requestTaken
  deriving DecidableEq

namespace Event

/-- The channel of an event. -/
def channel : Event → String
  | scopeDemoted _ _ => "search.tokenizer"
  | searchParsed _ _ _ => "search"
  | searchExecuted _ _ _ => "search.storage"
  | registryLoaded _ _ => "search.registry"
  | served _ _ _ _ => "search.api"
  | requestTaken => "asyncio"

/-- The level of the events that are reported only to developers. -/
def debugLevel : Int := 10

/-- The level of the events that are reported in operation. -/
def infoLevel : Int := 20

/-- The level of an event. -/
def level : Event → Int
  | scopeDemoted _ _ => debugLevel
  | searchExecuted _ _ _ => debugLevel
  | requestTaken => debugLevel
  | _ => infoLevel

/-- The message of an event. -/
def message : Event → String
  | scopeDemoted _ _ => "scope_demoted"
  | searchParsed _ _ _ => "search_parsed"
  | searchExecuted _ _ _ => "search_executed"
  | registryLoaded _ _ => "search_registry_loaded"
  | served .parse _ _ _ => "search_parse"
  | served .run _ _ _ => "search_run"
  | requestTaken => "Using selector: EpollSelector"

/-- Texts as one value. -/
def textList (texts : List String) : Value :=
  .list (texts.map .text)

/-- The fields of an event, in order. -/
def fields : Event → List (String × Value)
  | scopeDemoted scope reason => [("scope", .text scope), ("reason", .text reason.name)]
  | searchParsed resource words scopes =>
    [("resource", .text resource), ("words", .int words), ("scopes", textList scopes)]
  | searchExecuted table count scopes =>
    [("table", .text table), ("count", .int count), ("scopes", textList scopes)]
  | registryLoaded source count => [("source", .text source), ("count", .int count)]
  | served _ resource count traceId =>
    [("resource", .text resource), ("count", .int count), ("trace_id", .text traceId)]
  | requestTaken => []

end Event

end ScopeSearch
