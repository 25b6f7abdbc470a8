import ContainerBuild.Decimal.Binary64

/-! # The shortest decimal of a binary number

A decimal reads back as a binary number exactly when it lies in the interval of reals that round
to it. For one, two and up to seventeen digits, the two neighbours of the number on the decimal
grid with that many digits are tested; the first grid with a hit wins, and of two hits the nearer.
-/

namespace ContainerBuild

/-- The decimal `digits · 10 ^ exponent`. -/
structure Decimal where
  /-- All digits, as one natural number. -/
  digits : Nat
  /-- The power of ten. -/
  exponent : Int
  deriving DecidableEq, Repr, Inhabited

namespace Decimal

/-- A ratio over a power of ten, as a numerator and a denominator. -/
def unscale (num den : Nat) (e : Int) : Nat × Nat :=
  if e < 0 then (num * Nat.pow 10 e.natAbs, den) else (num, den * Nat.pow 10 e.natAbs)

/-- The reals that round to a positive number. -/
structure Interval where
  /-- The lower end, as a numerator over `den`. -/
  low : Nat
  /-- The number itself. -/
  value : Nat
  /-- The upper end. -/
  high : Nat
  /-- The denominator of all three. -/
  den : Nat
  /-- Whether the ends belong to the interval. -/
  closed : Bool

/-- The interval of a positive number. Below a power of two the numbers are twice as dense. -/
def Interval.of (x : Binary64) : Interval :=
  let gap := if x.mantissa == Nat.pow 2 52 && x.exponent > -1074 then 1 else 2
  let (num, den) := Binary64.shift 1 4 x.exponent
  ⟨num * (4 * x.mantissa - gap), num * (4 * x.mantissa), num * (4 * x.mantissa + 2), den,
    x.mantissa % 2 == 0⟩

/-- Whether the decimal lies in the interval. -/
def Interval.contains (i : Interval) (d : Decimal) : Bool :=
  let (num, den) := if d.exponent < 0 then (d.digits, Nat.pow 10 d.exponent.natAbs)
    else (d.digits * Nat.pow 10 d.exponent.natAbs, 1)
  let lhs := num * i.den
  if i.closed then i.low * den ≤ lhs && lhs ≤ i.high * den
  else i.low * den < lhs && lhs < i.high * den

/-- The decimal exponent of the first digit of a positive ratio. -/
def leadingExponent (num den : Nat) : Int :=
  if den ≤ num then ((Nat.toDigits 10 (num / den)).length : Int) - 1
  else
    let zeros := (Nat.toDigits 10 (den / num)).length
    if den ≤ num * Nat.pow 10 (zeros - 1) then -(zeros - 1 : Nat) else -(zeros : Int)

/-- The decimal without trailing zeros, of which at most `fuel` are taken off. -/
def strip (fuel : Nat) (d : Decimal) : Decimal :=
  match fuel with
  | 0 => d
  | fuel + 1 =>
    if d.digits != 0 && d.digits % 10 == 0 then strip fuel ⟨d.digits / 10, d.exponent + 1⟩ else d

/-- The better neighbour of the interval's number on the grid with `count` digits. -/
def neighbour? (i : Interval) (leading : Int) (count : Nat) : Option Decimal :=
  let e := leading - (count - 1 : Nat)
  let (num, den) := unscale i.value i.den e
  let below : Decimal := ⟨num / den, e⟩
  let above : Decimal := ⟨num / den + 1, e⟩
  match i.contains below, i.contains above with
  | true, true => if 2 * (num % den) ≤ den then some below else some above
  | true, false => some below
  | false, true => some above
  | false, false => none

/-- The shortest decimal that reads back as the number, and the nearest of those. -/
def shortest (x : Binary64) : Decimal :=
  if x.isZero then ⟨0, 0⟩
  else
    let i := Interval.of x
    let leading := leadingExponent i.value i.den
    match (List.range 17).findSome? fun n => neighbour? i leading (n + 1) with
    | some d => strip 17 d
    | none => ⟨0, 0⟩

end Decimal

end ContainerBuild
