import TopologyExplorer.Selection.Basic
import TopologyExplorer.Selection.Token

/-!
# Reading selections

The grammar of selections over tokens. A reader takes tokens from the front, or fails. Words of the
language are no names unless they are in quotes.
-/

namespace TopologyExplorer.Selection

abbrev Reader := StateT (List Token) Option

namespace Reader

/-- Words that are never names. -/
def reserved : List String :=
  ["add", "all", "alter", "and", "as", "autoincrement", "between", "case", "check", "collate",
   "commit", "constraint", "create", "default", "deferrable", "delete", "distinct", "drop", "else",
   "escape", "except", "exists", "foreign", "from", "group", "having", "in", "index", "insert",
   "intersect", "into", "is", "isnull", "join", "limit", "not", "nothing", "notnull", "null", "on",
   "or", "order", "primary", "references", "returning", "select", "set", "table", "then", "to",
   "transaction", "union", "unique", "update", "using", "values", "when", "where"]

/-- Words that are names, but not where a join may stand. -/
def joining : List String :=
  ["cross", "full", "inner", "left", "natural", "outer", "right", "indexed"]

/-! ## Single tokens -/

def next : Reader Token := do
  match ← get with
  | t :: ts =>
    set ts
    return t
  | [] => failure

/-- Takes the next token, if it passes. -/
def take? {α : Type} (f : Token → Option α) : Reader (Option α) := do
  match ← get with
  | t :: ts =>
    match f t with
    | some a =>
      set ts
      return some a
    | none => return none
  | [] => return none

def isWord (words : List String) : Token → Bool
  | .word w => words.contains w.toLower
  | _ => false

def takes (f : Token → Bool) : Reader Bool := do
  return (← take? fun t => if f t then some () else none).isSome

def word (w : String) : Reader Bool := takes (isWord [w])

def mark (m : String) : Reader Bool := takes (· = .mark m)

def need (r : Reader Bool) : Reader Unit := do
  if ← r then return () else failure

def nameOf? (excluded : List String) : Token → Option String
  | .word w => if excluded.contains w.toLower then none else some w
  | .quoted n | .literal n => some n
  | _ => none

def name : Reader String := do
  match ← take? (nameOf? reserved) with
  | some n => return n
  | none => failure

/-- Items of a list with commas between them; no more of them than `n + 1`. -/
def commaList {α : Type} (item : Reader α) : Nat → Reader (List α)
  | 0 => do return [← item]
  | n + 1 => do
    let first ← item
    if ← mark "," then return first :: (← commaList item n) else return [first]

/-! ## Expressions -/

/-- Operands with operators between them, the leftmost first. -/
def chain (operator : Token → Option (Expression → Expression → Expression))
    (operand : Reader Expression) (n : Nat) : Reader Expression := do
  go (← operand) n
where
  go (left : Expression) : Nat → Reader Expression
    | 0 => return left
    | n + 1 => do
      match ← take? operator with
      | some f => go (f left (← operand)) n
      | none => return left

def orderOperator : Token → Option (Expression → Expression → Expression)
  | .mark "<" => some (.compare .less)
  | .mark "<=" => some (.compare .lessOrEqual)
  | .mark ">" => some (.compare .greater)
  | .mark ">=" => some (.compare .greaterOrEqual)
  | _ => none

def equalityOperator : Token → Option (Expression → Expression → Expression)
  | .mark "=" | .mark "==" => some (.compare .equal)
  | .mark "<>" | .mark "!=" => some (.compare .unequal)
  | _ => none

def wordOperator (w : String) (f : Expression → Expression → Expression) (t : Token) :
    Option (Expression → Expression → Expression) :=
  if isWord [w] t then some f else none

/-- What follows a name in an expression: further names, each behind a dot. -/
def column (first : Token) : Reader Expression := do
  let more ← dotted 2
  let names := first :: more
  let path ← (names.mapM (nameOf? (reserved ++ joining)) : Option (List String))
  return .column path (match names with
    | [.quoted _] => true
    | _ => false)
where
  dotted : Nat → Reader (List Token)
    | 0 => return []
    | n + 1 => do
      if ← mark "." then
        let t ← next
        return t :: (← dotted n)
      else return []

/-- An operand that is no expression in brackets. -/
def plainOperand : Reader Expression := do
  match ← next with
  | .number n => return .constant (.number n)
  | .literal s =>
    match (← get).head? with
    | some (.mark ".") => column (.literal s)
    | _ => return .constant (.text s)
  | .mark "-" =>
    match ← next with
    | .number n => return .constant (.number (-(n : Int)))
    | _ => failure
  | t => if isWord ["null"] t then return .constant .absent else column t

/-- Tests for absence behind an operand. -/
def absence (e : Expression) : Reader Expression := do
  if ← word "isnull" then return .isAbsent e
  else if ← word "notnull" then return .negation (.isAbsent e)
  else if ← word "is" then
    let negative ← word "not"
    need (word "null")
    return if negative then .negation (.isAbsent e) else .isAbsent e
  else return e

/-- An expression with brackets nested no deeper than `n`, in chains no longer than `n`. -/
def expression : Nat → Reader Expression
  | 0 => failure
  | n + 1 => do
    let operand := do
      if ← mark "(" then
        let e ← expression n
        need (mark ")")
        return e
      else plainOperand
    let comparison := do
      absence (← chain equalityOperator (chain orderOperator operand n) n)
    chain (wordOperator "or" .either)
      (chain (wordOperator "and" .both) (negations comparison n) n) n
where
  negations (e : Reader Expression) : Nat → Reader Expression
    | 0 => e
    | n + 1 => do
      if ← word "not" then return .negation (← negations e n) else e

/-! ## Sources -/

/-- The words in front of `JOIN`: how the join keeps rows, if they go together. -/
def kindOf? (words : List String) : Option JoinKind :=
  let has := (words.map String.toLower).contains
  let isOuter := has "left" || has "right" || has "full"
  let isInner := has "inner" || has "cross"
  if has "indexed" || (isInner && (isOuter || has "outer")) || (has "outer" && !isOuter) then none
  else some ⟨has "left" || has "full", has "right" || has "full", has "natural"⟩

/-- The kind of the join that begins here; none where no join does. -/
def join? : Reader (Option JoinKind) := do
  if ← mark "," then return some .inner
  else
    let words ← joinWords 3
    if ← word "join" then
      match kindOf? words with
      | some kind => return some kind
      | none => failure
    else if words = [] then return none
    else failure
where
  joinWords : Nat → Reader (List String)
    | 0 => return []
    | n + 1 => do
      match ← take? fun t => if isWord joining t then nameOf? [] t else none with
      | some w => return w :: (← joinWords n)
      | none => return []

def alias? : Reader (Option String) := do
  if ← word "as" then return some (← name)
  else
    match ← take? (nameOf? (reserved ++ joining)) with
    | some n => return some n
    | none => return none

def rule (n : Nat) : Reader JoinRule := do
  if ← word "on" then return .condition (← expression n)
  else if ← word "using" then
    need (mark "(")
    let columns ← commaList name n
    need (mark ")")
    return .agreement columns
  else return .anything

def table : Reader Source := do
  let first ← name
  let second ← if ← mark "." then pure (some (← name)) else pure none
  let other ← alias?
  if ← word "not" then need (word "indexed")
  let (schema, table) := match second with
    | some t => (some first, t)
    | none => (none, first)
  return ⟨schema, table, other, .inner, .anything⟩

/-- Gives sources another name. -/
def renamed (sources : List Source) (other : Option String) : List Source :=
  sources.map fun s => { s with name := other <|> s.name }

def joined (sources : List Source) (kind : JoinKind) (rule : JoinRule) :
    Reader (List Source) := do
  if kind.natural ∧ rule ≠ .anything then failure
  match sources with
  | [s] => return [{ s with kind := kind, rule := rule }]
  | sources => if kind = .inner ∧ rule = .anything then return sources else failure

/-- Sources with brackets nested no deeper than `n`, no more than `n` in a row. -/
def sources : Nat → Reader (List Source)
  | 0 => failure
  | n + 1 => do
    let group := do
      if ← mark "(" then
        let inner ← sources n
        need (mark ")")
        return renamed inner (← alias?)
      else return [← table]
    let partner := fun (kind : JoinKind) => do
      let s ← group
      joined s kind (← rule n)
    more partner (← group) n
where
  more (partner : JoinKind → Reader (List Source)) (before : List Source) :
      Nat → Reader (List Source)
    | 0 => return before
    | n + 1 => do
      match ← join? with
      | some kind => more partner (before ++ (← partner kind)) n
      | none => return before

/-! ## Selections -/

def sortKey (n : Nat) : Reader SortKey := do
  let e ← expression n
  let _ ← takes (isWord ["asc", "desc"])
  match e with
  | .constant (.number k) => return .position k.toNat
  | e => return .expression e

/-- Keys behind a word and `BY`. -/
def keys (w : String) (n : Nat) : Reader (List SortKey) := do
  if ← word w then
    need (word "by")
    commaList (sortKey n) n
  else return []

/-- A bound on the number of rows; a negative one bounds nothing. -/
def bound : Reader (Option Nat) := do
  match ← plainOperand with
  | .constant (.number k) => return if k < 0 then none else some k.toNat
  | _ => failure

/-- The bound on the number of rows, and the rows that are left out in front. -/
def limit : Reader (Option Nat × Nat) := do
  if ← word "limit" then
    let first ← bound
    if ← word "offset" then return (first, (← bound).getD 0)
    else if ← mark "," then return (← bound, first.getD 0)
    else return (first, 0)
  else return (none, 0)

def ending : Reader Unit := do
  if (← get).isEmpty then return () else failure

/-- A selection to the end of the tokens, which are no more than `n`. -/
def plan (n : Nat) : Reader Plan := do
  need (word "select")
  need (mark "*")
  need (word "from")
  let sources ← sources n
  let condition ← if ← word "where" then pure (some (← expression n)) else pure none
  let groups ← keys "group" n
  let order ← keys "order" n
  let (limit, offset) ← limit
  ending
  return ⟨sources, condition, groups, order, limit, offset⟩

end Reader

def Plan.ofText? (s : String) : Option Plan := do
  let tokens ← Token.ofText? s
  return (← (Reader.plan (tokens.length + 1)).run tokens).1

end TopologyExplorer.Selection
