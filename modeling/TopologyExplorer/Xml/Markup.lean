import TopologyExplorer.Xml.Character

/-!
# Markup

The content of a document is a sequence of tags, entity references, and what leaves no trace in
its tree: character data, comments and instructions. An attribute's value is kept in pieces, since
the entities in it are known only with the document type.
-/

namespace TopologyExplorer.Xml

/-- Reads a name without a colon. -/
def plainName? (m : Reading) : List Char → Option (String × List Char)
  | c :: cs =>
    if m.isNameStart c then
      some (String.ofList (c :: cs.takeWhile m.isNameChar), cs.dropWhile m.isNameChar)
    else none
  | [] => none

/-- Reads a name of one part, or of two parts joined by a colon. -/
def qualifiedName? (m : Reading) (cs : List Char) : Option (String × List Char) :=
  match plainName? m cs with
  | some (space, ':' :: rest) =>
    match plainName? m rest with
    | some (name, rest) => some (space ++ ":" ++ name, rest)
    | none => none
  | other => other

/-- The text behind the first occurrence of a mark. -/
def behind? (mark : List Char) : List Char → Option (List Char)
  | [] => none
  | c :: cs =>
    if mark.isPrefixOf (c :: cs) then some ((c :: cs).drop mark.length) else behind? mark cs

/-- Skips a comment whose start is read. Two hyphens in a row only end it. -/
def comment? (cs : List Char) : Option (List Char) :=
  match behind? ['-', '-'] cs with
  | some ('>' :: rest) => some rest
  | _ => none

/-- Skips an instruction whose start is read. Its target is not `xml` in any case. -/
def instruction? (m : Reading) (cs : List Char) : Option (List Char) :=
  match plainName? m cs with
  | some (target, rest) =>
    if target.toLower = "xml" then none
    else
      match rest with
      | '?' :: '>' :: rest => some rest
      | c :: rest => if isBlank c then behind? ['?', '>'] rest else none
      | [] => none
  | none => none

inductive Reference where
  | char (c : Char)
  | entity (name : String)
  deriving DecidableEq, Repr

namespace Reference

def hexDigit? (c : Char) : Option Nat :=
  if c.isDigit then some (c.toNat - '0'.toNat)
  else if 'a' ≤ c ∧ c ≤ 'f' then some (c.toNat - 'a'.toNat + 10)
  else if 'A' ≤ c ∧ c ≤ 'F' then some (c.toNat - 'A'.toNat + 10)
  else none

/-- The legal character with a code point. -/
def charOf? (n : Nat) : Option Char :=
  if n.isValidChar ∧ isLegal (Char.ofNat n) then some (Char.ofNat n) else none

/-- Reads the digits of a character reference and its end. -/
def number? (base : Nat) (cs : List Char) : Option (Reference × List Char) :=
  let isDigit := fun c => (hexDigit? c).any (· < base)
  match cs.takeWhile isDigit, cs.dropWhile isDigit with
  | d :: ds, ';' :: rest =>
    (charOf? ((d :: ds).foldl (fun n c => base * n + (hexDigit? c).getD 0) 0)).map
      fun c => (char c, rest)
  | _, _ => none

/-- The character that a name stands for in every document. -/
def predefined? : String → Option Char
  | "lt" => some '<'
  | "gt" => some '>'
  | "amp" => some '&'
  | "quot" => some '"'
  | "apos" => some '\''
  | _ => none

/-- Reads a reference whose ampersand is read. -/
def ofText? (m : Reading) : List Char → Option (Reference × List Char)
  | '#' :: 'x' :: cs => number? 16 cs
  | '#' :: cs => number? 10 cs
  | cs =>
    match plainName? m cs with
    | some (name, ';' :: rest) =>
      match predefined? name with
      | some c => some (char c, rest)
      | none => some (entity name, rest)
    | _ => none

end Reference

/-- Reads the pieces of an attribute's value: a blank is a space, and so is a line end. The fuel is
the length of the text. -/
def piecesFrom (m : Reading) (acc : List Reference) : Nat → List Char → Option (List Reference)
  | _, [] => some acc.reverse
  | 0, _ :: _ => none
  | _ + 1, '<' :: _ => none
  | fuel + 1, '&' :: cs =>
    match Reference.ofText? m cs with
    | some (piece, rest) => piecesFrom m (piece :: acc) fuel rest
    | none => none
  | fuel + 1, '\r' :: '\n' :: cs =>
    piecesFrom m (if m.joined then .char ' ' :: acc else .char ' ' :: .char ' ' :: acc) fuel cs
  | fuel + 1, c :: cs => piecesFrom m (.char (if isBlank c then ' ' else c) :: acc) fuel cs

def pieces? (m : Reading) (value : List Char) : Option (List Reference) :=
  piecesFrom m [] value.length value

/-- An attribute as a tag gives it. -/
abbrev RawAttribute := String × List Reference

inductive Markup where
  | opening (name : String) (attributes : List RawAttribute) (closed : Bool)
  | closing (name : String)
  | entity (name : String)
  | data (blank : Bool)
  | remark
  deriving Repr

namespace Markup

/-- Reads an attribute: a name, an equals sign and a quoted value. -/
def attribute? (m : Reading) (cs : List Char) : Option (RawAttribute × List Char) :=
  match qualifiedName? m cs with
  | some (name, rest) =>
    match rest.dropWhile isBlank with
    | '=' :: rest =>
      match rest.dropWhile isBlank with
      | quote :: rest =>
        match rest.dropWhile (· ≠ quote) with
        | _ :: behind =>
          if quote = '"' ∨ quote = '\'' then
            (pieces? m (rest.takeWhile (· ≠ quote))).map fun value => ((name, value), behind)
          else none
        | [] => none
      | [] => none
    | _ => none
  | none => none

/-- Reads the attributes and the end of an opening tag. A blank stands before each attribute. -/
def openingFrom (m : Reading) (name : String) (acc : List RawAttribute) :
    Nat → List Char → Option (Markup × List Char)
  | 0, _ => none
  | fuel + 1, cs =>
    match cs, cs.dropWhile isBlank with
    | _, '>' :: rest => some (opening name acc.reverse false, rest)
    | _, '/' :: '>' :: rest => some (opening name acc.reverse true, rest)
    | c :: _, rest =>
      if isBlank c then
        match attribute? m rest with
        | some (a, rest) => openingFrom m name (a :: acc) fuel rest
        | none => none
      else none
    | [], _ => none

/-- The text holds the end mark of literal data, which may not stand in character data. -/
def hasDataEnd (cs : List Char) : Bool := (behind? [']', ']', '>'] cs).isSome

/-- Reads one markup of a text that is not empty. The fuel is the length of the text at least. -/
def next? (m : Reading) (fuel : Nat) : List Char → Option (Markup × List Char)
  | '<' :: '/' :: cs =>
    match qualifiedName? m cs with
    | some (name, rest) =>
      match rest.dropWhile isBlank with
      | '>' :: rest => some (closing name, rest)
      | _ => none
    | none => none
  | '<' :: '!' :: '-' :: '-' :: cs => (comment? cs).map (remark, ·)
  | '<' :: '!' :: '[' :: 'C' :: 'D' :: 'A' :: 'T' :: 'A' :: '[' :: cs =>
    (behind? [']', ']', '>'] cs).map (data false, ·)
  | '<' :: '?' :: cs => (instruction? m cs).map (remark, ·)
  | '<' :: cs =>
    match qualifiedName? m cs with
    | some (name, rest) => openingFrom m name [] fuel rest
    | none => none
  | '&' :: cs =>
    match Reference.ofText? m cs with
    | some (.char _, rest) => some (data false, rest)
    | some (.entity name, rest) => some (entity name, rest)
    | none => none
  | cs =>
    let run := cs.takeWhile fun c => c ≠ '<' && c ≠ '&'
    if hasDataEnd run then none
    else some (data (run.all isBlank), cs.dropWhile fun c => c ≠ '<' && c ≠ '&')

/-- Reads the markup of a text; `acc` holds what came before, last first. -/
def listFrom (m : Reading) (acc : List Markup) : Nat → List Char → Option (List Markup)
  | _, [] => some acc.reverse
  | 0, _ :: _ => none
  | fuel + 1, c :: cs =>
    match next? m (fuel + 1) (c :: cs) with
    | some (markup, rest) => listFrom m (markup :: acc) fuel rest
    | none => none

/-- The markup of a text. Each step reads a character at least, so its length is fuel enough. -/
def list? (m : Reading) (cs : List Char) : Option (List Markup) := listFrom m [] cs.length cs

/-- No data and no entity stands outside of all elements that the tags open and close. -/
def dataInside : Nat → List Markup → Bool
  | _, [] => true
  | depth, opening _ _ closed :: ms => dataInside (if closed then depth else depth + 1) ms
  | depth, closing _ :: ms => dataInside (depth - 1) ms
  | depth, entity _ :: ms => depth ≠ 0 && dataInside depth ms
  | depth, data blank :: ms => (blank || depth ≠ 0) && dataInside depth ms
  | depth, remark :: ms => dataInside depth ms

end Markup

end TopologyExplorer.Xml
