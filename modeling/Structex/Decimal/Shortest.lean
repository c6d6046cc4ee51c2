/-!
# Shortest decimals

A finite binary floating-point number is `significand · 2 ^ exponent`. This module finds the
decimal with the fewest digits that reads back as the same number: the decimals are tried on
coarser grids first, only the two grid points next to the number can qualify, and of two that do
the nearer wins.

All of it is exact arithmetic on naturals; nothing here depends on how floating-point operations
round.
-/

namespace Structex.Decimal

/-- A positive number `digits · 10 ^ exponent`. -/
structure Scaled where
  digits : Nat
  exponent : Int
  deriving DecidableEq, Repr

/-- A positive binary number together with the half gaps to its two neighbours, all in quarters of
its last binary place: `4 · significand · 2 ^ quarter` lies `below` above the lower end and
`2` below the upper end of the interval of reals that round to it. -/
structure Binary where
  significand : Nat
  quarter : Int
  below : Nat

/-- Two to a power, split into the factors of a numerator and a denominator. -/
private def powerParts (base : Nat) (exponent : Int) : Nat × Nat :=
  if exponent < 0 then (1, base.pow exponent.natAbs) else (base.pow exponent.natAbs, 1)

/-- How many decimal digits a number has. -/
def digitCount (value : Nat) : Nat :=
  (Nat.toDigits 10 value).length

/-- The place of the leading digit: the number lies below ten to this power, and not below a tenth
of that. Correct for every number of at least `10 ^ -400`. -/
def Binary.leadingPlace (number : Binary) : Int :=
  let (up, down) := powerParts 2 number.quarter
  (digitCount (4 * number.significand * up * Nat.pow 10 400 / down) : Int) - 400

/-- The grid point of spacing `10 ^ place` that rounds to the number, the nearer one if both
neighbours do and the even one if they are equally near. -/
def Binary.onGrid? (number : Binary) (place : Int) : Option Nat :=
  let (up, down) := powerParts 2 number.quarter
  let (gridUp, gridDown) := powerParts 10 place
  let scale := up * gridDown
  let unit := down * gridUp
  let middle := 4 * number.significand * scale
  let lower := (4 * number.significand - number.below) * scale
  let upper := (4 * number.significand + 2) * scale
  let closed := number.significand % 2 == 0
  let inside (point : Nat) : Bool :=
    if closed then lower ≤ point * unit && point * unit ≤ upper
    else lower < point * unit && point * unit < upper
  let floor := middle / unit
  match inside floor && 0 < floor, inside (floor + 1) with
  | false, false => none
  | true, false => some floor
  | false, true => some (floor + 1)
  | true, true =>
    let down := middle - floor * unit
    let up := (floor + 1) * unit - middle
    if down < up then some floor
    else if up < down then some (floor + 1)
    else if floor % 2 == 0 then some floor else some (floor + 1)

/-- The first grid with a point that rounds to the number, tried from `place` downwards. -/
def Binary.firstGrid (number : Binary) : (tries : Nat) → (place : Int) → Scaled
  | 0, place => ⟨(number.onGrid? place).getD 0, place⟩
  | tries + 1, place =>
    match number.onGrid? place with
    | some point => ⟨point, place⟩
    | none => number.firstGrid tries (place - 1)

/-- Drops zeros at the end of the digits. -/
def Scaled.trim : (fuel : Nat) → Scaled → Scaled
  | 0, scaled => scaled
  | fuel + 1, scaled =>
    if scaled.digits % 10 == 0 && scaled.digits != 0 then
      trim fuel ⟨scaled.digits / 10, scaled.exponent + 1⟩
    else
      scaled

/-- The decimal with the fewest digits that reads back as the number. -/
def Binary.shortest (number : Binary) : Scaled :=
  (number.firstGrid 17 (number.leadingPlace - 1)).trim 20

/-- The parts of a finite double that is not zero, read off its bits; its sign is dropped. -/
def Binary.ofBits (bits : UInt64) : Binary :=
  let fraction := (bits &&& 0xfffffffffffff).toNat
  let biased := ((bits >>> 52) &&& 0x7ff).toNat
  if biased == 0 then
    ⟨fraction, -1076, 2⟩
  else
    ⟨fraction + Nat.pow 2 52, (biased : Int) - 1077, if fraction == 0 && biased > 1 then 1 else 2⟩

end Structex.Decimal
