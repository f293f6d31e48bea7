import TopologyExplorer.Number.Binary

/-!
# Decimal numbers in text

A number is written with decimal digits, a sign before them and a decimal exponent behind them
allowed. A text without an exponent is worth its integer if that has 64 bits. Every other text is
worth a number of double precision: its first digits, as many as a bound admits, are scaled by a
power of ten in extended precision, and the result is rounded once more. A column of integers
compares equal to the integer that a text is worth, if that is one.
-/

namespace TopologyExplorer.DecimalText

def isBlank (c : Char) : Bool :=
  c = ' ' ∨ ('\t' ≤ c ∧ c ≤ '\r')

def trim (cs : List Char) : List Char :=
  ((cs.dropWhile isBlank).reverse.dropWhile isBlank).reverse

structure Decimal where
  negative : Bool
  digits : List Nat
  exponent : Option Int
  deriving DecidableEq, Repr

/-! ## Reading -/

/-- The values of digits, at least one. -/
def digits? (cs : List Char) : Option (List Nat) :=
  if cs ≠ [] ∧ cs.all Char.isDigit then some (cs.map fun c => c.toNat - '0'.toNat) else none

/-- Splits a sign off: whether it is negative, and what follows. -/
def sign : List Char → Bool × List Char
  | '-' :: cs => (true, cs)
  | '+' :: cs => (false, cs)
  | cs => (false, cs)

/-- An exponent past this one is no longer read on. -/
def exponentBound : Nat := 10000

/-- The magnitude of an exponent. The digit behind one past the bound puts it back on the bound. -/
def exponentOf (ds : List Nat) : Nat :=
  ds.foldl (fun e d => if e < exponentBound then 10 * e + d else exponentBound) 0

def exponent? (cs : List Char) : Option Int :=
  let (negative, cs) := sign cs
  (digits? cs).map fun ds => if negative then -(exponentOf ds : Int) else exponentOf ds

def ofText? (s : String) : Option Decimal :=
  let (negative, cs) := sign (trim s.toList)
  match digits? (cs.takeWhile Char.isDigit), cs.dropWhile Char.isDigit with
  | some ds, [] => some ⟨negative, ds, none⟩
  | some ds, c :: cs =>
    if c = 'e' ∨ c = 'E' then (exponent? cs).map fun e => ⟨negative, ds, some e⟩ else none
  | none, _ => none

/-! ## Words -/

def leastWord : Int := -9223372036854775808

def greatestWord : Int := 9223372036854775807

/-- The integer has 64 bits, one of them for the sign. -/
def isWord (n : Int) : Bool := leastWord ≤ n ∧ n ≤ greatestWord

def signed (negative : Bool) (n : Nat) : Int := if negative then -(n : Int) else n

/-- The integer of a text without an exponent, if it is a word. -/
def Decimal.word? (d : Decimal) : Option Int :=
  let n := signed d.negative (d.digits.foldl (fun n d => 10 * n + d) 0)
  if d.exponent = none ∧ isWord n then some n else none

/-! ## Numbers of double precision -/

/-- A significand from here on takes no further digit. -/
def fullSignificand : Nat := 922337203685477579

/-- The number of the first digits, behind the digits of `s`, and how many digits are left over. -/
def significandFrom (s : Nat) : List Nat → Nat × Nat
  | [] => (s, 0)
  | d :: ds =>
    if fullSignificand ≤ s then (s, ds.length + 1) else significandFrom (10 * s + d) ds

/-- A significand below this one takes a factor of ten from its power. -/
def roomySignificand : Nat := 922337203685477580

/-- Moves factors of ten from a power into the significand, as long as there is room. -/
def absorb (s : Nat) : Nat → Nat × Nat
  | 0 => (s, 0)
  | e + 1 => if s < roomySignificand then absorb (10 * s) e else (s, e + 1)

/-- Takes factors of ten out of a significand, as many as the divisor has. -/
def cancel (s : Nat) : Nat → Nat × Nat
  | 0 => (s, 0)
  | e + 1 => if s % 10 = 0 then cancel (s / 10) e else (s, e + 1)

/-- The greatest power of ten that a number is scaled by in one step. -/
def greatestPower : Nat := 307

/-- Divisors from this power of ten on leave nothing. -/
def vanishingPower : Nat := 342

/-- A significand times a power of ten; none past every word. -/
def scaleUp (s e : Nat) : Option Binary :=
  match absorb s e with
  | (s, 0) => some (Precision.double.hold (.ofNat s))
  | (s, e) =>
    if greatestPower < e then none
    else
      let scale := Precision.extended.powerOfTen e
      some (Precision.double.hold (Precision.extended.mul (.ofNat s) scale))

/-- A significand over a power of ten. A great power is taken in two steps. -/
def scaleDown (s e : Nat) : Binary :=
  let quotient := fun (s e : Nat) =>
    Precision.double.hold
      (Precision.extended.div (.ofNat s) (Precision.extended.powerOfTen e))
  match cancel s e with
  | (s, 0) => Precision.double.hold (.ofNat s)
  | (s, e) =>
    if e ≤ greatestPower then quotient s e
    else if e < vanishingPower then
      Precision.double.div (quotient s (e - (greatestPower + 1)))
        (Precision.double.hold (.ofNat (Nat.pow 10 (greatestPower + 1))))
    else .ofNat 0

/-- The magnitude that a text is worth in double precision; none past every word. -/
def Decimal.magnitude? (d : Decimal) : Option Binary :=
  let (s, left) := significandFrom 0 d.digits
  if s = 0 then some (.ofNat 0)
  else
    match d.exponent.getD 0 + left with
    | .ofNat e => scaleUp s e
    | .negSucc e => some (scaleDown s (e + 1))

/-- The integer that a text is worth in double precision. -/
def Decimal.rounded? (d : Decimal) : Option Int :=
  (d.magnitude?.bind Binary.natural?).map (signed d.negative)

/-! ## Worth -/

/-- The integer that a text is worth in a column of integers. -/
def integer? (s : String) : Option Int :=
  (ofText? s).bind fun d => d.word? <|> d.rounded?

/-- The integer that a text is worth as the key of a table. A number in double precision is no key
if it is on the edge of the words. -/
def key? (s : String) : Option Int :=
  (ofText? s).bind fun d => d.word? <|> d.rounded?.filter (leastWord < ·)

end TopologyExplorer.DecimalText
