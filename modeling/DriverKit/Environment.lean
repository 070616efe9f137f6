/-!
# Environments

The variables that a process is started with.
-/

namespace DriverKit

/-- The variables of a process by their names. -/
abbrev Environment := List (String × String)

namespace Environment

def value? (environment : Environment) (name : String) : Option String :=
  environment.lookup name

def filled? (environment : Environment) (name : String) : Option String :=
  (environment.value? name).filter (· != "")

end Environment

end DriverKit
