import TopologyExplorer.Xml.Character

/-!
# Codecs

Readers of documents know a few encodings. For every other name they ask the codecs around them
what single bytes stand for. Which codecs there are is a parameter of all that reads documents;
some common ones are there by default.
-/

namespace TopologyExplorer.Xml

/-- Why a codec is of no use. -/
inductive CodecFault where
  /-- No codec has the name. -/
  | unknown
  /-- The codec does not give each byte a character of its own. -/
  | severalBytes
  deriving DecidableEq, Repr

/-- The characters of single bytes. Some bytes may have none. -/
abbrev ByteTable := UInt8 → Option Char

class Codecs where
  table : String → Except CodecFault ByteTable

namespace ByteTable

/-- The codes of seven-bit characters that markup has no use for. -/
def unusedCodes : List Nat := [0x24, 0x40, 0x5C, 0x5E, 0x60, 0x7B, 0x7D, 0x7E, 0x7F]

def isMarkup (c : Char) : Bool :=
  isLegal c && c.toNat < 0x80 && !unusedCodes.contains c.toNat

/-- The characters of markup have their own bytes, and all characters are of the first plane. -/
def isRegular (charOf : ByteTable) : Bool :=
  (List.range 256).all fun n =>
    (!isMarkup (Char.ofNat n) || charOf n.toUInt8 = some (Char.ofNat n))
      && (charOf n.toUInt8).all fun c => c.toNat ≤ 0xFFFF && (!isMarkup c || c.toNat = n)

def sevenBit : ByteTable := fun b => if b < 0x80 then some (Char.ofNat b.toNat) else none

def latin1 : ByteTable := fun b => some (Char.ofNat b.toNat)

/-- The code points between 0x80 and 0x9F in the code page of Western Europe; zero for none. -/
def westernCodes : List Nat :=
  [0x20AC, 0, 0x201A, 0x192, 0x201E, 0x2026, 0x2020, 0x2021, 0x2C6, 0x2030, 0x160, 0x2039, 0x152,
    0, 0x17D, 0, 0, 0x2018, 0x2019, 0x201C, 0x201D, 0x2022, 0x2013, 0x2014, 0x2DC, 0x2122, 0x161,
    0x203A, 0x153, 0, 0x17E, 0x178]

def western : ByteTable := fun b =>
  if 0x80 ≤ b ∧ b < 0xA0 then
    (westernCodes[b.toNat - 0x80]?).bind fun code => if code = 0 then none else some (Char.ofNat code)
  else latin1 b

end ByteTable

namespace Codecs

/-- The letters and digits of a name, in lower case. -/
def plain (name : String) : String :=
  String.ofList ((name.toList.filter Char.isAlphanum).map Char.toLower)

/-- The names of encodings with several bytes to a character. -/
def manyBytes : List String :=
  ["gbk", "gb2312", "gb18030", "big5", "shiftjis", "eucjp", "euckr", "utf7", "utf16", "utf32"]

def common (name : String) : Except CodecFault ByteTable :=
  match plain name with
  | "utf8" | "ascii" | "usascii" => .ok .sevenBit
  | "latin1" | "iso88591" => .ok .latin1
  | "windows1252" | "cp1252" => .ok .western
  | other => .error (if manyBytes.contains other then .severalBytes else .unknown)

instance : Codecs := ⟨common⟩

end Codecs

end TopologyExplorer.Xml
