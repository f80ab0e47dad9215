/-!
# The shortest decimal that reads back

A finite binary64 value other than zero is `m · 2 ^ q`. The reals that round to it form an
interval, which holds its ends iff `m` is even. The shortest decimal of the value is its nearest
point on the coarsest grid of powers of ten that has a point in that interval; all of it is exact
arithmetic on natural numbers.

* **`Decimal.Layout.text`**: the decimal as text, positional or with an exponent as the layout says.
-/

namespace TokenOutline

/-- A decimal numeral `digits · 10 ^ exponent`. -/
structure Decimal where
  digits : Nat
  exponent : Int
  deriving DecidableEq

/-- A binary64 magnitude `significand · 2 ^ exponent`, and whether the value below it is half as
far away as the one above. -/
structure Binary64 where
  significand : Nat
  exponent : Int
  narrowBelow : Bool
  deriving DecidableEq

namespace Binary64

/-- The magnitude that the bits stand for: 52 of them are the fraction, 11 the exponent. -/
def ofBits (bits : UInt64) : Binary64 :=
  let biased : Nat := bits.toNat / 4503599627370496 % 2048
  let fraction : Nat := bits.toNat % 4503599627370496
  if biased = 0 then ⟨fraction, -1074, false⟩
  else ⟨fraction + 4503599627370496, (biased : Int) - 1075, fraction = 0 && 1 < biased⟩

/-- Whether the sign bit is set. -/
def negative (bits : UInt64) : Bool := 9223372036854775808 ≤ bits.toNat

/-- The points of the grid of `10 ^ p` next to the value that round to it, the nearer first. -/
def candidates (b : Binary64) (p : Int) : List Nat :=
  -- everything is measured in quarters of `2 ^ exponent`, then scaled to whole numbers
  let up (i : Int) (base : Nat) := Nat.pow base i.toNat
  let down (i : Int) (base : Nat) := Nat.pow base (-i).toNat
  let unit := up (b.exponent - 2) 2 * down p 10
  let grid := up p 10 * down (b.exponent - 2) 2
  let value := 4 * b.significand * unit
  let low := (4 * b.significand - (if b.narrowBelow then 1 else 2)) * unit
  let high := (4 * b.significand + 2) * unit
  let inside (d : Nat) : Bool :=
    d > 0 && (if b.significand % 2 = 0 then low ≤ d * grid && d * grid ≤ high
      else low < d * grid && d * grid < high)
  let below := value / grid
  let nearerAbove := 2 * (value - below * grid) > grid ||
    (2 * (value - below * grid) == grid && below % 2 == 1)
  (if nearerAbove then [below + 1, below] else [below, below + 1]).filter inside

/-- The coarsest grid with a point that rounds to the value, from `10 ^ (309 - tried)` down. -/
def shortestFrom (b : Binary64) : Nat → Int → Decimal
  | 0, p => ⟨0, p⟩
  | n + 1, p =>
    match b.candidates p with
    | d :: _ => ⟨d, p⟩
    | [] => shortestFrom b n (p - 1)

/-- The shortest decimal that reads back as the value; zero is `0 · 10 ^ 0`. -/
def shortest (b : Binary64) : Decimal :=
  if b.significand = 0 then ⟨0, 0⟩ else b.shortestFrom 640 309

end Binary64

namespace Decimal

/-- How a decimal is written: where positional notation begins and ends, and how an exponent is
introduced. -/
structure Layout where
  /-- The least exponent of a leading digit that is written positionally. -/
  least : Int
  /-- The greatest exponent of a leading digit that is written positionally. -/
  greatest : Int

/-- The digits of a natural number. -/
def digitsOf (n : Nat) : List Char := Nat.toDigits 10 n

/-- The decimal with a point and at least one digit on each side of it. -/
def positional (d : Decimal) : List Char :=
  let ds := digitsOf d.digits
  if 0 ≤ d.exponent then ds ++ List.replicate d.exponent.toNat '0' ++ ['.', '0']
  else
    let places := (-d.exponent).toNat
    if places < ds.length then ds.take (ds.length - places) ++ '.' :: ds.drop (ds.length - places)
    else '0' :: '.' :: List.replicate (places - ds.length) '0' ++ ds

/-- The decimal with one digit before the point and an exponent with its sign. -/
def scientific (d : Decimal) : List Char :=
  let ds := digitsOf d.digits
  let e := d.exponent + ds.length - 1
  ds.take 1 ++ (if ds.length > 1 then '.' :: ds.drop 1 else []) ++
    'e' :: (if 0 ≤ e then '+' else '-') :: digitsOf e.natAbs

/-- The text of a decimal in a layout. -/
def Layout.text (l : Layout) (d : Decimal) : List Char :=
  let leading := d.exponent + (digitsOf d.digits).length - 1
  if l.least ≤ leading && leading ≤ l.greatest then d.positional else d.scientific

/-- The text of the binary64 value with these bits. -/
def Layout.textOfBits (l : Layout) (bits : UInt64) : List Char :=
  (if Binary64.negative bits then ['-'] else []) ++ l.text (Binary64.ofBits bits).shortest

end Decimal

end TokenOutline
