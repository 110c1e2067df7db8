/-!
# Log directives

Which events are logged when the environment does not say: those of the relay and of its HTTP
layer, from the configured level on.
-/

namespace ObliviousRelay.Log

/-- The filter for a configured level. -/
def directive (level : String) : String :=
  "ohttp_relay=" ++ level ++ ",tower_http=" ++ level

end ObliviousRelay.Log
