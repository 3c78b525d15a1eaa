/-!
# Shortest decimals

A decimal is rounded to the nearest binary number with 53 significant bits, ties
to the even one.  Of the decimals that round to the same binary number the one
with the fewest digits is written, and of those the nearest to it.
-/

namespace InstructionCatalog.Decimal

/-- The number `mantissa * 2 ^ exponent`. -/
structure Binary where
  mantissa : Nat
  exponent : Int
  deriving DecidableEq, Repr

structure Fraction where
  numerator : Nat
  denominator : Nat
  deriving DecidableEq, Repr

namespace Fraction

def scale (f : Fraction) (base : Nat) (exponent : Int) : Fraction :=
  if exponent < 0 then ⟨f.numerator, f.denominator * base.pow exponent.natAbs⟩
  else ⟨f.numerator * base.pow exponent.natAbs, f.denominator⟩

def le (a b : Fraction) : Bool :=
  a.numerator * b.denominator ≤ b.numerator * a.denominator

def lt (a b : Fraction) : Bool :=
  !b.le a

/-- The greatest `e` with `base ^ e` at most `f`, searched downwards from `start`. -/
def floorLog (f : Fraction) (base : Nat) (start : Int) : Nat → Int
  | 0 => start
  | fuel + 1 =>
      if (scale ⟨1, 1⟩ base start).le f then start else floorLog f base (start - 1) fuel

/-- The nearest natural number, ties to the even one. -/
def round (f : Fraction) : Nat :=
  let quotient := f.numerator / f.denominator
  let twice := 2 * (f.numerator % f.denominator)
  if twice < f.denominator then quotient
  else if twice = f.denominator then quotient + quotient % 2
  else quotient + 1

def floor (f : Fraction) : Nat :=
  f.numerator / f.denominator

/-- The nearest binary number, if it is not too large. -/
def toBinary? (f : Fraction) : Option Binary :=
  if f.numerator = 0 then some ⟨0, 0⟩
  else
    let bits : Int := (Nat.log2 f.numerator : Int) - Nat.log2 f.denominator + 1
    let exponent := max (-1074) (f.floorLog 2 bits 3 - 52)
    let mantissa := (f.scale 2 (-exponent)).round
    if Nat.pow 2 1024 ≤ ((⟨mantissa, 1⟩ : Fraction).scale 2 exponent).floor then none
    else if mantissa = Nat.pow 2 53 then some ⟨Nat.pow 2 52, exponent + 1⟩
    else some ⟨mantissa, exponent⟩

end Fraction

namespace Binary

/-- The number in quarters of its last place. -/
def quarters (b : Binary) (count : Nat) : Fraction :=
  (⟨count, 4⟩ : Fraction).scale 2 b.exponent

def holds (b : Binary) (f : Fraction) : Bool :=
  let below := if b.mantissa = Nat.pow 2 52 ∧ b.exponent ≠ -1074 then 1 else 2
  let low := b.quarters (4 * b.mantissa - below)
  let high := b.quarters (4 * b.mantissa + 2)
  if b.mantissa % 2 = 0 then low.le f && f.le high else low.lt f && f.lt high

/-- A decimal with this many digits that rounds to the number, the nearest if there are two. -/
def withDigits? (b : Binary) (magnitude : Int) (count : Nat) : Option (Nat × Int) :=
  let value := b.quarters (4 * b.mantissa)
  let exponent := magnitude - count + 1
  let lower := (value.scale 10 (-exponent)).floor
  let candidate (digits : Nat) : Fraction := (⟨digits, 1⟩ : Fraction).scale 10 exponent
  let middle := (⟨2 * lower + 1, 2⟩ : Fraction).scale 10 exponent
  match b.holds (candidate lower), b.holds (candidate (lower + 1)) with
  | true, true => some (if value.le middle then lower else lower + 1, exponent)
  | true, false => some (lower, exponent)
  | false, true => some (lower + 1, exponent)
  | false, false => none

def shortest (b : Binary) : Nat × Int :=
  if b.mantissa = 0 then (0, 0)
  else
    let value := b.quarters (4 * b.mantissa)
    let start : Int := ((Nat.log2 b.mantissa : Int) + b.exponent + 1) * 3 / 10 + 2
    let magnitude := value.floorLog 10 start 40
    ((List.range 17).findSome? fun n => b.withDigits? magnitude (n + 1)).getD (0, 0)

/-- The shortest decimal without an exponent; a whole number ends in `.0`. -/
def display (b : Binary) : String :=
  let (digits, exponent) := b.shortest
  if exponent ≥ 0 then toString (digits * Nat.pow 10 exponent.natAbs) ++ ".0"
  else
    let places := exponent.natAbs
    let text := (toString digits).toList
    let padded := List.replicate (places + 1 - text.length) '0' ++ text
    let whole := padded.take (padded.length - places)
    let rest := (padded.drop (padded.length - places)).reverse.dropWhile (· = '0')
    String.ofList (whole ++ '.' :: if rest.isEmpty then ['0'] else rest.reverse)

end Binary

end InstructionCatalog.Decimal
