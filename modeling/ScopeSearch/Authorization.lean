import ScopeSearch.Policy

/-!
# Authorization of scopes

With an allow-list a typed scope must be listed verbatim, or its name must be declared with a
wildcard.  Without any declaration a scope is accepted unless what was typed looks like an operation
that changes data: it ends in an exclamation mark or holds a denied word in any case.
-/

set_option autoImplicit false

namespace ScopeSearch

/-- The words that a scope may not hold where no scopes are declared. -/
def deniedWords : List String :=
  ["destroy", "remove", "delete", "update", "create"]

/-- The first text stands somewhere in the second. -/
def occursIn (pattern : List Char) : List Char → Bool
  | [] => pattern.isEmpty
  | c :: rest => pattern.isPrefixOf (c :: rest) || occursIn pattern rest

/-- A text ends in an exclamation mark. -/
def isBanged (s : String) : Bool :=
  s.toList.getLast? == some '!'

/-- A text holds a denied word in any case. -/
def holdsDeniedWord (s : String) : Bool :=
  deniedWords.any fun word => occursIn word.toList (Text.lower s).toList

/-- The entry that declares a scope with any argument. -/
def wildcardEntry (name : String) : String :=
  name ++ ":*"

/-- A scope is declared with any argument. -/
def isWildcarded (name : String) (entries : List String) : Bool :=
  entries.contains (wildcardEntry name)

/-- A directive may be applied under a policy. -/
def authorizes (policy : ScopePolicy) (d : Directive) : Bool :=
  match policy.mode with
  | .allowList => policy.entries.contains d.userInput || isWildcarded d.name policy.entries
  | .disabled => false
  | .unrestricted => !isBanged d.userInput && !holdsDeniedWord d.userInput

end ScopeSearch
