/-!
# UTF-8

Bytes are read one by one. Between bytes the reader is at rest or inside a character, knowing the
bits so far, how many bytes are due, and the bounds of the next one; the bounds rule out the long
forms, the surrogates and the values past the last character. A byte out of bounds ends the
character begun, which then counts as one ill-formed part, and is read anew.
-/

namespace TopologyExplorer.Utf8

/-- A character of which some bytes are read. -/
structure Partial where
  bits : Nat
  due : Nat
  low : UInt8
  high : UInt8
  deriving DecidableEq, Repr

/-- A character, or `none` for an ill-formed part. -/
abbrev Item := Option Char

/-- Reads a byte at rest. -/
def begin (b : UInt8) : List Item × Option Partial :=
  let n := b.toNat
  if n < 0x80 then ([some (Char.ofNat n)], none)
  else if n < 0xC2 then ([none], none)
  else if n < 0xE0 then ([], some ⟨n - 0xC0, 1, 0x80, 0xBF⟩)
  else if n = 0xE0 then ([], some ⟨0, 2, 0xA0, 0xBF⟩)
  else if n = 0xED then ([], some ⟨0xD, 2, 0x80, 0x9F⟩)
  else if n < 0xF0 then ([], some ⟨n - 0xE0, 2, 0x80, 0xBF⟩)
  else if n = 0xF0 then ([], some ⟨0, 3, 0x90, 0xBF⟩)
  else if n < 0xF4 then ([], some ⟨n - 0xF0, 3, 0x80, 0xBF⟩)
  else if n = 0xF4 then ([], some ⟨4, 3, 0x80, 0x8F⟩)
  else ([none], none)

/-- Reads a byte. -/
def step : Option Partial → UInt8 → List Item × Option Partial
  | none, b => begin b
  | some p, b =>
    if p.low ≤ b ∧ b ≤ p.high then
      let bits := p.bits * 64 + (b.toNat - 0x80)
      if p.due = 1 then ([some (Char.ofNat bits)], none)
      else ([], some ⟨bits, p.due - 1, 0x80, 0xBF⟩)
    else
      let (items, next) := begin b
      (none :: items, next)

/-- Reads the remaining bytes; `items` holds what came before, last first. -/
def scanFrom (items : List Item) : Option Partial → List UInt8 → List Item
  | none, [] => items.reverse
  | some _, [] => (none :: items).reverse
  | state, b :: bytes =>
    let (new, next) := step state b
    scanFrom (new.reverse ++ items) next bytes

/-- The characters and ill-formed parts of a byte sequence. -/
def scan (bytes : List UInt8) : List Item := scanFrom [] none bytes

/-- Stands for an ill-formed part. -/
def replacement : Char := '\uFFFD'

/-- The text of any bytes. -/
def decode (bytes : List UInt8) : List Char :=
  (scan bytes).map (·.getD replacement)

/-- The text of well-formed bytes. -/
def decode? (bytes : List UInt8) : Option (List Char) :=
  (scan bytes).mapM id

def encode (s : String) : List UInt8 := s.toList.flatMap String.utf8EncodeChar

end TopologyExplorer.Utf8
