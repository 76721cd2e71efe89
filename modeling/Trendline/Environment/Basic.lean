/-!
# Environments

The variables a program is started with.  A variable that is set already keeps
its value when another one is offered.
-/

namespace Trendline

/-- Variables with their values. -/
structure Environment where
  bindings : List (String × String) := []
  deriving DecidableEq, Repr

namespace Environment

/-- The value of a variable. -/
def get? (env : Environment) (name : String) : Option String :=
  env.bindings.lookup name

/-- Sets a variable that has no value yet. -/
def offer (env : Environment) (name value : String) : Environment :=
  if (env.get? name).isSome then env else ⟨env.bindings ++ [(name, value)]⟩

end Environment

end Trendline
