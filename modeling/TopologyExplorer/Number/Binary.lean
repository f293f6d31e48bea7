/-!
# Binary numbers

Magnitudes with a bounded count of binary digits. A magnitude is an integer times a power of two;
a precision rounds a quotient to the nearest magnitude that it holds, and of two nearest ones to
the even one. Products, quotients and powers are rounded, each step of a power for itself.
-/

namespace TopologyExplorer

/-- The magnitude `mantissa · 2 ^ exponent`. -/
structure Binary where
  mantissa : Nat
  exponent : Int
  deriving DecidableEq, Repr

namespace Binary

/-- A power of two; one for a negative exponent. -/
def twoTo (e : Int) : Nat := Nat.pow 2 e.toNat

def ofNat (n : Nat) : Binary := ⟨n, 0⟩

/-- The numerator of the magnitude over `den`. -/
def num (x : Binary) : Nat := x.mantissa * twoTo x.exponent

def den (x : Binary) : Nat := twoTo (-x.exponent)

/-- The integer that the magnitude is. -/
def natural? (x : Binary) : Option Nat :=
  if x.num % x.den = 0 then some (x.num / x.den) else none

/-- The nearest integer to a quotient; a half goes to the even neighbour. -/
def roundDiv (num den : Nat) : Nat :=
  let (q, r) := (num / den, num % den)
  if 2 * r < den ∨ (2 * r = den ∧ q % 2 = 0) then q else q + 1

/-- The greatest `e` for which `2 ^ e` is at most a positive quotient. -/
def log2Div (num den : Nat) : Int :=
  let e := (num.log2 : Int) - den.log2
  if den * twoTo e ≤ num * twoTo (-e) then e else e - 1

end Binary

structure Precision where
  /-- The most binary digits. -/
  width : Int
  /-- The exponent of the smallest magnitude. -/
  lowest : Int
  deriving DecidableEq, Repr

namespace Precision

open Binary

/-- The precision of numbers at rest. -/
def double : Precision := ⟨53, -1074⟩

/-- The precision of intermediate results. -/
def extended : Precision := ⟨64, -16445⟩

/-- The nearest magnitude to a quotient. -/
def round (p : Precision) (num den : Nat) : Binary :=
  let e := max (log2Div num den - (p.width - 1)) p.lowest
  ⟨roundDiv (num * twoTo (-e)) (den * twoTo e), e⟩

def hold (p : Precision) (x : Binary) : Binary := p.round x.num x.den

def mul (p : Precision) (x y : Binary) : Binary := p.round (x.num * y.num) (x.den * y.den)

def div (p : Precision) (x y : Binary) : Binary := p.round (x.num * y.den) (x.den * y.num)

/-- The product of `r` and the power `x ^ n`, by repeated squaring. -/
def mulPower (p : Precision) (r x : Binary) (n : Nat) : Binary :=
  let r := if n % 2 = 1 then p.mul r x else r
  if n / 2 = 0 then r else mulPower p r (p.mul x x) (n / 2)
termination_by n

def powerOfTen (p : Precision) (n : Nat) : Binary := p.mulPower (ofNat 1) (ofNat 10) n

end Precision

end TopologyExplorer
