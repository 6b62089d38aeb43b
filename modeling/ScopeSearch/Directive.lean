/-!
# Scope directives

A directive is a reference to a scope found in a search term.  It keeps what was typed for the
scope, because that text is what an allow-list is compared with.
-/

set_option autoImplicit false

namespace ScopeSearch

/-- A scope with an optional argument, and what was typed for it. -/
structure Directive where
  userInput : String
  name : String
  argument : Option String := none
  deriving DecidableEq, Inhabited

namespace Directive

/-- The wildcard notation of a scope with an argument. -/
def wildcard (name argument : String) : String :=
  name ++ ":" ++ argument

/-- The call notation of a scope with an argument. -/
def call (name argument : String) : String :=
  name ++ "(" ++ argument ++ ")"

/-- A directive in writing: its name, followed by its argument in the notation that was typed. -/
def render (d : Directive) : String :=
  match d.argument with
  | none => d.name
  | some a => if d.userInput = wildcard d.name a then wildcard d.name a else call d.name a

end Directive

end ScopeSearch
