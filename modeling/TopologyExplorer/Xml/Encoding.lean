import TopologyExplorer.Text.Utf8
import TopologyExplorer.Xml.Codec

/-!
# Encodings of documents

The first bytes of a document tell a byte order mark or a sixteen-bit encoding; an XML declaration
may name another encoding for what follows. One that every reader knows has the same width; any
other is left to the codecs, which are asked before a byte behind the declaration is read. The text
of a document is its characters behind the declaration, each of them legal.
-/

namespace TopologyExplorer.Xml

structure Declaration where
  encoding : Option String
  standalone : Bool
  deriving DecidableEq, Repr

namespace Declaration

/-- A document without a declaration. -/
def silent : Declaration := ⟨none, false⟩

def isValueChar (c : Char) : Bool :=
  c.isAlphanum ∨ c = '.' ∨ c = '-' ∨ c = '_'

/-- A name and a value read from a declaration, and what follows them. -/
abbrev Setting := (String × String) × List Char

/-- Reads `name = "value"` behind a blank. The inner `none` says that only blanks are left. -/
def setting? (cs : List Char) : Option (Option Setting) :=
  match cs, cs.dropWhile isBlank with
  | _, [] => some none
  | c :: _, rest =>
    let name := rest.takeWhile fun c => !isBlank c && c ≠ '='
    match (rest.dropWhile fun c => !isBlank c && c ≠ '=').dropWhile isBlank with
    | '=' :: rest =>
      match rest.dropWhile isBlank with
      | quote :: rest =>
        let value := rest.takeWhile (· ≠ quote)
        match rest.dropWhile (· ≠ quote) with
        | _ :: rest =>
          if isBlank c ∧ name ≠ [] ∧ (quote = '"' ∨ quote = '\'') ∧ value.all isValueChar then
            some (some ((String.ofList name, String.ofList value), rest))
          else none
        | [] => none
      | [] => none
    | _ => none
  | [], _ => none

/-- Reads the end of a declaration: whether the document stands alone. -/
def ending? (encoding : Option String) (last : Option Setting) : Option Declaration :=
  match last with
  | none => some ⟨encoding, false⟩
  | some (("standalone", value), rest) =>
    if !rest.all isBlank then none
    else if value = "yes" then some ⟨encoding, true⟩
    else if value = "no" then some ⟨encoding, false⟩
    else none
  | some _ => none

/-- Reads what stands between `<?xml` and `?>`: a version, then perhaps an encoding, then perhaps
whether the document stands alone. -/
def ofText? (body : List Char) : Option Declaration :=
  match setting? body with
  | some (some (("version", _), rest)) =>
    match setting? rest with
    | some (some (("encoding", name), rest)) =>
      if name.toList.head?.any Char.isAlpha then (setting? rest).bind (ending? (some name))
      else none
    | some last => ending? none last
    | none => none
  | _ => none

/-- The text before the first `?>`, and the text behind it. -/
def splitEnd (before : List Char) : List Char → Option (List Char × List Char)
  | '?' :: '>' :: cs => some (before.reverse, cs)
  | c :: cs => splitEnd (c :: before) cs
  | [] => none

/-- Splits a declaration off the start of a text. A text without one says nothing. -/
def split? : List Char → Option (Declaration × List Char)
  | '<' :: '?' :: 'x' :: 'm' :: 'l' :: c :: cs =>
    if isBlank c ∨ c = '?' then do
      let (body, rest) ← splitEnd [] (c :: cs)
      return (← ofText? body, rest)
    else some (silent, '<' :: '?' :: 'x' :: 'm' :: 'l' :: c :: cs)
  | cs => some (silent, cs)

end Declaration

inductive Encoding where
  | utf8
  | utf16 (bigEndian : Bool)
  | latin1
  | ascii
  | table (charOf : ByteTable)

inductive DocumentFault where
  | malformed
  /-- The encoding that it declares cannot be had. -/
  | encoding (fault : CodecFault)
  deriving DecidableEq, Repr

/-- A document is malformed if something is not there. -/
def orMalformed {α : Type} : Option α → Except DocumentFault α
  | some a => .ok a
  | none => .error .malformed

namespace Encoding

/-- The encoding that the first bytes tell, and the bytes behind a byte order mark. -/
def detect : List UInt8 → Encoding × List UInt8
  | 0xFE :: 0xFF :: bytes => (utf16 true, bytes)
  | 0xFF :: 0xFE :: bytes => (utf16 false, bytes)
  | 0xEF :: 0xBB :: 0xBF :: bytes => (utf8, bytes)
  | 0x00 :: bytes => (utf16 true, 0x00 :: bytes)
  | b :: 0x00 :: bytes => (utf16 false, b :: 0x00 :: bytes)
  | bytes => (utf8, bytes)

/-- Two bytes to a unit. -/
def units (bigEndian : Bool) (acc : List Nat) : List UInt8 → Option (List Nat)
  | [] => some acc.reverse
  | [_] => none
  | a :: b :: bytes =>
    let (high, low) := if bigEndian then (a, b) else (b, a)
    units bigEndian ((high.toNat * 256 + low.toNat) :: acc) bytes

/-- Joins the units of characters past the first plane. Any unit may follow a leading one, and
gives its low ten bits. -/
def pairs (acc : List Char) : List Nat → Option (List Char)
  | [] => some acc.reverse
  | lead :: units =>
    if lead < 0xD800 ∨ 0xE000 ≤ lead then pairs (Char.ofNat lead :: acc) units
    else if 0xDC00 ≤ lead then none
    else
      match units with
      | [] => none
      | trail :: units =>
        pairs (Char.ofNat (0x10000 + (lead - 0xD800) * 0x400 + trail % 0x400) :: acc) units

def decode? : Encoding → List UInt8 → Option (List Char)
  | utf8, bytes => Utf8.decode? bytes
  | utf16 bigEndian, bytes => (units bigEndian [] bytes).bind (pairs [])
  | latin1, bytes => some (bytes.map fun b => Char.ofNat b.toNat)
  | ascii, bytes =>
    if bytes.all (· < 0x80) then some (bytes.map fun b => Char.ofNat b.toNat) else none
  | table charOf, bytes => bytes.mapM charOf

/-- The bytes of a unit. -/
def width : Encoding → Nat
  | utf16 _ => 2
  | _ => 1

/-- The units of a text as characters. That is the text as far as a declaration can go. -/
def view : Encoding → List UInt8 → List Char
  | utf16 bigEndian, bytes =>
    ((units bigEndian [] (bytes.take (bytes.length / 2 * 2))).getD []).map Char.ofNat
  | _, bytes => bytes.map fun b => Char.ofNat b.toNat

/-- The encoding that every reader knows by a name. One name does not tell the order of bytes,
which stays as it is in `e`. -/
def known? (e : Encoding) (name : String) : Option Encoding :=
  match e, name.toUpper with
  | _, "UTF-8" => some utf8
  | _, "ISO-8859-1" => some latin1
  | _, "US-ASCII" => some ascii
  | utf16 bigEndian, "UTF-16" => some (utf16 bigEndian)
  | _, "UTF-16" | _, "UTF-16BE" => some (utf16 true)
  | _, "UTF-16LE" => some (utf16 false)
  | _, _ => none

/-- A known encoding may follow another of its width and its order of bytes. -/
def admits : Encoding → Encoding → Bool
  | utf16 a, utf16 b => a = b
  | e, f => e.width = f.width

/-- The encoding that takes over where a declaration in `e` names one, or names none. -/
def declared [Codecs] (e : Encoding) : Option String → Except DocumentFault Encoding
  | none => .ok e
  | some name =>
    match e.known? name with
    | some next => if e.admits next then .ok next else .error .malformed
    | none =>
      match Codecs.table name with
      | .ok charOf => if charOf.isRegular then .ok (table charOf) else .error .malformed
      | .error fault => .error (.encoding fault)

def reading : Encoding → Reading
  | utf8 | ascii | table _ => ⟨false, true⟩
  | utf16 _ | latin1 => ⟨true, true⟩

end Encoding

/-- The declaration of a document, the encoding that it stands in and the bytes behind it. -/
def start? (bytes : List UInt8) : Option (Declaration × Encoding × List UInt8) := do
  let (first, bytes) := Encoding.detect bytes
  let view := first.view bytes
  let (declaration, rest) ← Declaration.split? view
  return (declaration, first, bytes.drop (first.width * (view.length - rest.length)))

/-- The declaration of a document, and its legal text behind it with how it is read. -/
def text [Codecs] (bytes : List UInt8) :
    Except DocumentFault (Declaration × Reading × List Char) := do
  let (declaration, first, behind) ← orMalformed (start? bytes)
  let encoding ← first.declared declaration.encoding
  let cs ← orMalformed (encoding.decode? behind)
  if cs.all isLegal then return (declaration, encoding.reading, cs) else throw .malformed

end TopologyExplorer.Xml
