import TopologyExplorer.Xml.Markup

/-!
# Document types

A document type is read from its tokens, which know no blanks. It declares entities and the
attributes of elements; other declarations only have to be well formed. The first declaration of
an entity or attribute counts. A reference to declarations that are not read leaves the type
open: an entity missing from an open type is no fault of the document. The texts of entities are
not repeated past a bound.
-/

namespace TopologyExplorer.Xml

/-- Normalises a value of a type other than character data: single spaces, none at the ends. -/
def collapse (value : List Char) : List Char :=
  let joined := value.foldl
    (fun acc c => if c = ' ' ∧ (acc = [] ∨ acc.head? = some ' ') then acc else c :: acc) []
  (joined.dropWhile (· = ' ')).reverse

inductive Entity where
  | internal (text : List Char)
  | elsewhere
  deriving Repr

structure AttributeRule where
  element : String
  name : String
  /-- The type is not character data, so values are normalised. -/
  tokenized : Bool
  default? : Option (List Char)
  deriving Repr

structure Doctype where
  reading : Reading
  /-- The document says that it stands alone. -/
  standalone : Bool
  /-- Some declarations are not read. -/
  incomplete : Bool
  /-- Declarations take effect. -/
  keeps : Bool
  entities : List (String × Entity)
  attributes : List AttributeRule
  /-- The bytes of entities that are repeated so far, and the most that may be. -/
  spent : Nat
  bound : Nat
  deriving Repr

namespace Doctype

/-- The bytes of entities that may be repeated in a document of a size. -/
def boundOf (size : Nat) : Nat := max (8388607 - size) (99 * size)

/-- The type of a document that declares none; `size` is the bytes of the document. -/
def initial (m : Reading) (standalone : Bool) (size : Nat) : Doctype :=
  ⟨m, standalone, false, true, [], [], 0, boundOf size⟩

/-- An undeclared entity is a fault. -/
def isStrict (d : Doctype) : Bool := d.standalone || !d.incomplete

def addEntity (d : Doctype) (name : String) (e : Entity) : Doctype :=
  if !d.keeps || (Reference.predefined? name).isSome || (d.entities.lookup name).isSome then d
  else { d with entities := (name, e) :: d.entities }

def rule? (d : Doctype) (element name : String) : Option AttributeRule :=
  d.attributes.find? fun r => r.element = element ∧ r.name = name

def addRule (d : Doctype) (r : AttributeRule) : Doctype :=
  if !d.keeps || (d.rule? r.element r.name).isSome then d
  else { d with attributes := d.attributes ++ [r] }

/-- The references in the text of an entity. -/
def mentioned : List Char → List Reference
  | [] => []
  | c :: cs =>
    if c = '&' then ((Reference.ofText? .inner cs).map (·.1)).toList ++ mentioned cs
    else mentioned cs

/-- The bytes that are repeated once entities of at most some depth are, if the bound admits
them. -/
def spendTo (d : Doctype) : Nat → Nat → List Reference → Option Nat
  | 0, spent, _ => some spent
  | depth + 1, spent, pieces =>
    pieces.foldlM (fun spent piece =>
      match piece with
      | .char _ => some spent
      | .entity name =>
        match d.entities.lookup name with
        | some (.internal text) =>
          let spent := spent + (String.ofList text).utf8ByteSize
          if d.bound < spent then none else spendTo d depth spent (mentioned text)
        | _ => some spent) spent

/-- Counts the entities that are repeated in the place of references. -/
def spend? (d : Doctype) (pieces : List Reference) : Option Doctype :=
  (d.spendTo (d.entities.length + 1) d.spent pieces).map fun spent => { d with spent := spent }

/-- The value of pieces with entities of at most some depth expanded. -/
def expandTo (d : Doctype) : Nat → List Reference → Option (List Char)
  | 0, _ => none
  | depth + 1, pieces => do
    let value ← pieces.foldlM (fun acc piece =>
      match piece with
      | .char c => some (c :: acc)
      | .entity name =>
        match d.entities.lookup name with
        | some (.internal text) => do
          return (← expandTo d depth (← pieces? .inner text)).reverse ++ acc
        | some .elsewhere => none
        | none => if d.isStrict then none else some acc) []
    return value.reverse

/-- The value of pieces. A chain of entities longer than their number repeats one, which is a
fault. -/
def expand? (d : Doctype) (pieces : List Reference) : Option (List Char) :=
  d.expandTo (d.entities.length + 1) pieces

inductive Token where
  | name (text : String)
  | qualified (text : String)
  | word
  | counted
  | literal (body : List Char)
  | hash (text : String)
  | percent
  | parameter
  | opened
  | shut (mark : Option Char)
  | bar
  | comma
  | bracket
  | unbracket
  | declare (keyword : String)
  | finish
  | remark
  deriving DecidableEq, Repr

namespace Token

/-- The text goes on with a blank or one of the characters. -/
def goesOn (marks : List Char) : List Char → Bool
  | c :: _ => isBlank c || marks.contains c
  | [] => false

def isWordChar (m : Reading) (c : Char) : Bool := m.isNameChar c || c = ':'

/-- What a word of name characters and colons is. -/
def ofWord (m : Reading) (cs : List Char) : Token :=
  match cs, cs.splitOn ':' with
  | c :: _, [_] => if m.isNameStart c then name (String.ofList cs) else word
  | c :: _, [_, first :: _] =>
    if m.isNameStart c ∧ m.isNameChar first then qualified (String.ofList cs) else word
  | _, _ => word

/-- Reads a token of a text that starts with none but blanks before it. -/
def next? (m : Reading) : List Char → Option (Token × List Char)
  | '<' :: '!' :: '-' :: '-' :: cs => (comment? cs).map (remark, ·)
  | '<' :: '!' :: cs =>
    let isKeyword := fun c : Char => c.isAlpha || c = '_'
    match cs.takeWhile isKeyword, cs.dropWhile isKeyword with
    | k :: ks, '%' :: c :: rest =>
      if isBlank c ∨ c = '%' then none
      else some (declare (String.ofList (k :: ks)), '%' :: c :: rest)
    | k :: ks, rest =>
      if goesOn [] rest then some (declare (String.ofList (k :: ks)), rest) else none
    | [], _ => none
  | '<' :: '?' :: cs => (instruction? m cs).map (remark, ·)
  | '%' :: cs =>
    match plainName? m cs with
    | some (_, ';' :: rest) => some (parameter, rest)
    | some _ => none
    | none => if goesOn ['%'] cs then some (percent, cs) else none
  | '#' :: cs =>
    match plainName? m cs with
    | some (text, rest) => if goesOn [')', '>', '%', '|'] rest then some (hash text, rest) else none
    | none => none
  | '(' :: cs => some (opened, cs)
  | ')' :: cs =>
    match cs with
    | '*' :: rest => some (shut (some '*'), rest)
    | '?' :: rest => some (shut (some '?'), rest)
    | '+' :: rest => some (shut (some '+'), rest)
    | _ => if goesOn ['>', ',', '|', ')'] cs then some (shut none, cs) else none
  | '|' :: cs => some (bar, cs)
  | ',' :: cs => some (comma, cs)
  | '[' :: cs => some (bracket, cs)
  | ']' :: ']' :: '>' :: _ => none
  | ']' :: cs => some (unbracket, cs)
  | '>' :: cs => some (finish, cs)
  | c :: cs =>
    if c = '"' ∨ c = '\'' then
      match cs.dropWhile (· ≠ c) with
      | _ :: rest =>
        if goesOn ['>', '%', '['] rest then some (literal (cs.takeWhile (· ≠ c)), rest) else none
      | [] => none
    else
      match (c :: cs).takeWhile (isWordChar m), (c :: cs).dropWhile (isWordChar m) with
      | [], _ => none
      | w, mark :: rest =>
        if mark = '?' ∨ mark = '*' ∨ mark = '+' then
          if ofWord m w = word then none else some (counted, rest)
        else if goesOn ['>', ')', ',', '|', '[', '%'] (mark :: rest) then
          some (ofWord m w, mark :: rest)
        else none
      | _, [] => none
  | [] => none

/-- Reads the tokens up to the end of the document type. `depth` counts open brackets. -/
def listFrom (m : Reading) (acc : List Token) (depth : Nat) :
    Nat → List Char → Option (List Token × List Char)
  | 0, _ => none
  | fuel + 1, cs =>
    match next? m (cs.dropWhile isBlank) with
    | none => none
    | some (finish, rest) =>
      if depth = 0 then some (acc.reverse, rest) else listFrom m (finish :: acc) depth fuel rest
    | some (bracket, rest) => listFrom m (bracket :: acc) (depth + 1) fuel rest
    | some (unbracket, rest) => listFrom m (unbracket :: acc) (depth - 1) fuel rest
    | some (token, rest) => listFrom m (token :: acc) depth fuel rest

end Token

/-- Every character may stand in a public identifier. -/
def isPublic (body : List Char) : Bool :=
  body.all fun c =>
    c.isAlphanum || [' ', '\n', '\r', '-', '\'', '(', ')', '+', ',', '.', '/', ':', '=', '?', ';',
      '!', '*', '#', '@', '$', '_', '%'].contains c

/-- The identifier of something outside of the document: what follows it. -/
def outside? : List Token → Option (List Token)
  | .name "SYSTEM" :: .literal _ :: rest => some rest
  | .name "PUBLIC" :: .literal body :: .literal _ :: rest =>
    if isPublic body then some rest else none
  | _ => none

/-- The text of an entity: character references are replaced, other references stay. -/
def entityText (m : Reading) (acc : List Char) : Nat → List Char → Option (List Char)
  | _, [] => some acc.reverse
  | 0, _ :: _ => none
  | _ + 1, '%' :: _ => none
  | fuel + 1, '&' :: '#' :: cs =>
    match Reference.ofText? m ('#' :: cs) with
    | some (.char c, rest) => entityText m (c :: acc) fuel rest
    | _ => none
  | fuel + 1, '&' :: cs =>
    match plainName? m cs with
    | some (_, ';' :: _) => entityText m ('&' :: acc) fuel cs
    | _ => none
  | fuel + 1, '\r' :: '\n' :: cs => entityText m ('\n' :: acc) fuel cs
  | fuel + 1, c :: cs => entityText m ((if c = '\r' then '\n' else c) :: acc) fuel cs

/-- Takes a declaration of an entity, given what follows its keyword. -/
def declareEntity? (d : Doctype) : List Token → Option Doctype
  | [.percent, .name _, .literal body] =>
    if d.keeps then (entityText d.reading [] body.length body).map fun _ => d else some d
  | .percent :: .name _ :: rest =>
    match outside? rest with
    | some [] => some d
    | _ => none
  | [.name n, .literal body] =>
    if d.keeps then
      (entityText d.reading [] body.length body).map fun text => d.addEntity n (.internal text)
    else some d
  | .name n :: rest =>
    match outside? rest with
    | some [] => some (d.addEntity n .elsewhere)
    | some [.name "NDATA", .name _] => some (d.addEntity n .elsewhere)
    | _ => none
  | _ => none

/-- The names of attribute types other than character data. -/
def typeNames : List String :=
  ["ID", "IDREF", "IDREFS", "ENTITY", "ENTITIES", "NMTOKEN", "NMTOKENS"]

/-- Skips the values of an enumeration whose start is read. Notations are plain names. -/
def enumeration? (notations : Bool) : List Token → Option (List Token)
  | value :: .bar :: rest =>
    if isValue value then enumeration? notations rest else none
  | value :: .shut none :: rest => if isValue value then some rest else none
  | _ => none
where
  isValue : Token → Bool
    | .name _ => true
    | .qualified _ | .word => !notations
    | _ => false

/-- Reads the type of an attribute: whether values are normalised, and what follows. -/
def attributeType? : List Token → Option (Bool × List Token)
  | .name "CDATA" :: rest => some (false, rest)
  | .name "NOTATION" :: .opened :: rest => (enumeration? true rest).map (true, ·)
  | .name n :: rest => if typeNames.contains n then some (true, rest) else none
  | .opened :: rest => (enumeration? false rest).map (true, ·)
  | _ => none

/-- Reads the default of an attribute, and what follows. -/
def attributeDefault? : List Token → Option (Option (List Char) × List Token)
  | .hash "IMPLIED" :: rest => some (none, rest)
  | .hash "REQUIRED" :: rest => some (none, rest)
  | .hash "FIXED" :: .literal body :: rest => some (some body, rest)
  | .literal body :: rest => some (some body, rest)
  | _ => none

/-- Takes the declarations of an element's attributes, given what follows the element's name. -/
def declareAttributes? (d : Doctype) (element : String) : Nat → List Token → Option Doctype
  | _, [] => some d
  | 0, _ :: _ => none
  | fuel + 1, token :: rest => do
    let name ←
      match token with
      | .name n | .qualified n => some n
      | _ => none
    let (tokenized, rest) ← attributeType? rest
    let (body, rest) ← attributeDefault? rest
    if !d.keeps then declareAttributes? d element fuel rest
    else
      let (d, value) ←
        match body with
        | none => some (d, none)
        | some body => do
          let pieces ← pieces? d.reading body
          let d ← d.spend? pieces
          let value ← d.expand? pieces
          some (d, some (if tokenized then collapse value else value))
      declareAttributes? (d.addRule ⟨element, name, tokenized, value⟩) element fuel rest

/-- The rest of a content model of character data and elements is well formed. -/
def mixedModel : List Token → Bool
  | [.shut (some '*')] => true
  | .bar :: .name _ :: rest | .bar :: .qualified _ :: rest => mixedModel rest
  | _ => false

/-- The rest of a content model of elements is well formed. Open groups have the sign between
their members, once it is seen; `due` says that a member is due. -/
def elementModel (due : Bool) : List (Option Token) → List Token → Bool
  | groups, .opened :: rest => due && elementModel true (none :: groups) rest
  | groups, .name _ :: rest | groups, .qualified _ :: rest | groups, .counted :: rest =>
    due && elementModel false groups rest
  | _ :: groups, .shut _ :: rest =>
    !due && (if groups.isEmpty then rest.isEmpty else elementModel false groups rest)
  | sign :: groups, .bar :: rest =>
    !due && sign ≠ some .comma && elementModel true (some .bar :: groups) rest
  | sign :: groups, .comma :: rest =>
    !due && sign ≠ some .bar && elementModel true (some .comma :: groups) rest
  | _, _ => false

def contentModel : List Token → Bool
  | [.name "EMPTY"] | [.name "ANY"] => true
  | [.opened, .hash "PCDATA", .shut none] => true
  | .opened :: .hash "PCDATA" :: rest => mixedModel rest
  | .opened :: rest => elementModel true [none] rest
  | _ => false

/-- A declaration of a notation is well formed, given what follows its name. -/
def notationBody : List Token → Bool
  | [.name "SYSTEM", .literal _] => true
  | [.name "PUBLIC", .literal body] => isPublic body
  | [.name "PUBLIC", .literal body, .literal _] => isPublic body
  | _ => false

/-- Takes a declaration, given its keyword and what follows. -/
def declare? (d : Doctype) : String → List Token → Option Doctype
  | "ENTITY", body => d.declareEntity? body
  | "ATTLIST", .name element :: body | "ATTLIST", .qualified element :: body =>
    d.declareAttributes? element body.length body
  | "ELEMENT", .name _ :: body | "ELEMENT", .qualified _ :: body =>
    if contentModel body then some d else none
  | "NOTATION", .name _ :: body => if notationBody body then some d else none
  | _, _ => none

/-- Takes the declarations between brackets, up to the closing one, which comes last. -/
def declareAll? (d : Doctype) : Nat → List Token → Option Doctype
  | _, [.unbracket] => some d
  | fuel + 1, .remark :: rest => declareAll? d fuel rest
  | fuel + 1, .parameter :: rest =>
    declareAll? { d with incomplete := true, keeps := d.standalone } fuel rest
  | fuel + 1, .declare keyword :: rest =>
    match rest.dropWhile (· ≠ .finish) with
    | .finish :: behind => do
      declareAll? (← d.declare? keyword (rest.takeWhile (· ≠ .finish))) fuel behind
    | _ => none
  | _, _ => none

/-- Takes what follows the name of a document type. -/
def body? (d : Doctype) : List Token → Option Doctype
  | [] => some d
  | .bracket :: rest => d.declareAll? rest.length rest
  | _ => none

/-- Reads a document type whose start is read, and what follows it; `d` declares nothing yet. -/
def ofText? (d : Doctype) (cs : List Char) : Option (Doctype × List Char) := do
  let (tokens, rest) ← Token.listFrom d.reading [] 0 (cs.length + 1) cs
  match tokens with
  | .name _ :: tokens | .qualified _ :: tokens =>
    match outside? tokens with
    | some tokens => return (← { d with incomplete := true }.body? tokens, rest)
    | none => return (← d.body? tokens, rest)
  | _ => none

end Doctype

end TopologyExplorer.Xml
