/-! # Binary floating-point numbers

Finite numbers of the 64-bit binary format, as a sign, a mantissa of at most 53 bits and a power of
two. Every operation computes the exact result as a ratio of natural numbers and rounds once, to
the nearest number of the format and to the even mantissa on a tie.
-/

namespace ContainerBuild

/-- The finite number `± mantissa · 2 ^ exponent`. The mantissa has 53 bits, or fewer at the least
exponent, so that equal numbers of one sign are equal values. -/
structure Binary64 where
  /-- Whether the number carries a minus sign; zero may. -/
  negative : Bool
  /-- The digits, as a natural number below `2 ^ 53`. -/
  mantissa : Nat
  /-- The power of two, between -1074 and 971. -/
  exponent : Int
  deriving DecidableEq, Repr, Inhabited

namespace Binary64

/-- Zero without a sign. -/
def zero : Binary64 := ⟨false, 0, -1074⟩

/-- Whether the number is zero, with or without a sign. -/
def isZero (x : Binary64) : Bool := x.mantissa == 0

/-- The number with the sign turned around. -/
def neg (x : Binary64) : Binary64 := { x with negative := !x.negative }

/-- A ratio times a power of two, as a numerator and a denominator. -/
def shift (num den : Nat) (e : Int) : Nat × Nat :=
  if e < 0 then (num, den * Nat.pow 2 e.natAbs) else (num * Nat.pow 2 e.natAbs, den)

/-- The absolute value as a numerator and a denominator. -/
def ratio (x : Binary64) : Nat × Nat := shift x.mantissa 1 x.exponent

/-- The natural number nearest to a ratio; the even one on a tie. -/
def nearest (num den : Nat) : Nat :=
  let q := num / den
  let r := num % den
  if 2 * r > den || (2 * r == den && q % 2 == 1) then q + 1 else q

/-- The number nearest to a ratio with a positive denominator, unless it is too great. -/
def ofRatio? (num den : Nat) : Option Binary64 :=
  if num == 0 then some zero
  else
    let guess : Int := max (-1074) ((num.log2 : Int) - den.log2 - 53)
    let scaled := shift num den (-guess)
    let e := if scaled.1 / scaled.2 < Nat.pow 2 53 then guess else guess + 1
    let scaled := shift num den (-e)
    let m := nearest scaled.1 scaled.2
    let x : Binary64 := if m < Nat.pow 2 53 then ⟨false, m, e⟩ else ⟨false, Nat.pow 2 52, e + 1⟩
    if x.exponent ≤ 971 then some x else none

/-- The number nearest to a power of ten. -/
def tenPower? (n : Nat) : Option Binary64 := ofRatio? (Nat.pow 10 n) 1

/-- The absolute value of the product, rounded. -/
def mul? (x y : Binary64) : Option Binary64 :=
  ofRatio? (x.ratio.1 * y.ratio.1) (x.ratio.2 * y.ratio.2)

/-- The absolute value of the quotient by a number that is not zero, rounded. -/
def div? (x y : Binary64) : Option Binary64 :=
  ofRatio? (x.ratio.1 * y.ratio.2) (x.ratio.2 * y.ratio.1)

/-- The greatest power of ten in the format. -/
def greatestTenPower : Nat := 308

/-- The absolute value of the quotient by a power of ten, in steps of the greatest power. -/
def lower? (x : Binary64) (n : Nat) : Option Binary64 :=
  if n ≤ greatestTenPower then do div? x (← tenPower? n)
  else if x.isZero then some zero
  else do lower? (← div? x (← tenPower? greatestTenPower)) (n - greatestTenPower)
termination_by n
decreasing_by simp only [greatestTenPower] at *; omega

/-- The absolute value times a power of ten, rounded after each multiplication or division by a
power of the format. -/
def scale? (x : Binary64) (e : Int) : Option Binary64 :=
  if 0 ≤ e then
    if e.natAbs ≤ greatestTenPower then do mul? x (← tenPower? e.natAbs)
    else if x.isZero then some zero else none
  else lower? x e.natAbs

/-- The number `± significand · 10 ^ exponent`: the significand is rounded first, then the
product. -/
def ofDecimal? (negative : Bool) (significand : Nat) (exponent : Int) : Option Binary64 := do
  let x ← scale? (← ofRatio? significand 1) exponent
  pure (if negative then x.neg else x)

end Binary64

end ContainerBuild
