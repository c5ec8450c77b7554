/-!
# Version
-/

namespace Reactor

/-- The version of the framework. -/
def version : String := "0.1.0"

end Reactor
