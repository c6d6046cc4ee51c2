import Structex.Decimal.Shortest

/-!
# Notation of floating-point numbers

How the digits of a number are laid out: where the point stands, when an exponent is written, and
which words stand for the values that have no digits.
-/

namespace Structex.Decimal

/-- The decisions that fix a number's text. The point position is the count of digits before the
point, negative when zeros follow it. -/
structure Layout where
  /-- The least point position that is written without an exponent. -/
  leastPoint : Int
  /-- The greatest point position that is written without an exponent. -/
  greatestPoint : Int
  infinity : String
  notNumber : String

/-- Digits with the point in its place; a number without a fraction shows one zero after it. -/
def positional (digits : List Char) (point : Int) : List Char :=
  if point ≤ 0 then
    '0' :: '.' :: List.replicate point.natAbs '0' ++ digits
  else if point.toNat < digits.length then
    digits.take point.toNat ++ '.' :: digits.drop point.toNat
  else
    digits ++ List.replicate (point.toNat - digits.length) '0' ++ ['.', '0']

/-- One digit before the point, then a signed exponent of at least two digits. -/
def exponential (digits : List Char) (point : Int) : List Char :=
  let exponent := point - 1
  let body := Nat.toDigits 10 exponent.natAbs
  let padded := if body.length < 2 then '0' :: body else body
  let fraction := if digits.length > 1 then '.' :: digits.drop 1 else []
  digits.take 1 ++ fraction ++ 'e' :: (if exponent < 0 then '-' else '+') :: padded

/-- The text of a number's magnitude. -/
def Layout.magnitude (layout : Layout) (bits : UInt64) : List Char :=
  if bits &&& 0x7fffffffffffffff == 0 then ['0', '.', '0']
  else
    let shortest := (Binary.ofBits bits).shortest
    let digits := Nat.toDigits 10 shortest.digits
    let point := shortest.exponent + digits.length
    if layout.leastPoint ≤ point && point ≤ layout.greatestPoint then positional digits point
    else exponential digits point

/-- The text of a number. -/
def Layout.render (layout : Layout) (number : Float) : String :=
  if number.isNaN then layout.notNumber
  else
    let bits := number.toBits
    let sign := if bits >>> 63 == 0 then "" else "-"
    if number.isInf then sign ++ layout.infinity
    else sign ++ String.ofList (layout.magnitude bits)

/-- A number as shown in messages: sixteen places before the point at most, three zeros after it
at most. -/
def shown : Layout := ⟨-3, 16, "inf", "nan"⟩

/-- A number as written in interchange text. -/
def interchange : Layout := ⟨-3, 16, "Infinity", "NaN"⟩

end Structex.Decimal
