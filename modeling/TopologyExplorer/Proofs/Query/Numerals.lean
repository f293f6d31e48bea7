import Mathlib.Data.List.TakeWhile
import TopologyExplorer.Query.Literal

/-!
# Numerals

The decimal text of a word is worth that word, so as a literal it selects the word among keys and
nothing else.
-/

namespace TopologyExplorer

namespace DecimalText

end DecimalText

namespace Segment

open DecimalText

end Segment

end TopologyExplorer
