import TopologyExplorer.Record.Basic

/-!
# Keywords

A keyword selects the records that hold it, with the same case and in one piece, in some field.
-/

namespace TopologyExplorer

/-- The characters stand in one piece somewhere in a text. -/
def standsIn (piece : List Char) : List Char → Bool
  | [] => piece.isEmpty
  | c :: cs => piece.isPrefixOf (c :: cs) || standsIn piece cs

theorem standsIn_iff (piece cs : List Char) : standsIn piece cs = true ↔ piece <:+: cs := by
  induction cs with
  | nil => simp [standsIn]
  | cons c cs ih => simp [standsIn, ih, List.infix_cons_iff]

def occursIn (keyword text : String) : Bool :=
  standsIn keyword.toList text.toList

variable {α : Type} [HasFields α]

/-- Some field of the record holds the keyword. -/
def hasKeyword (keyword : String) (record : α) : Bool :=
  (HasFields.fields record).any fun field => field.2.any (occursIn keyword)

/-- The records that hold the keyword, in their order. -/
def filterByKeyword (records : List α) (keyword : String) : List α :=
  records.filter (hasKeyword keyword)

end TopologyExplorer
