import Structex.Text.Class

/-!
# Numerals

Which texts are read as integers and as floating-point numbers: digits of any script, single
underscores between digits, a sign, white space around the whole. A text that is no numeral is
`none`; nothing here guesses.
-/

namespace Structex.Decimal

open Structex.Text

/-- The longest integer numeral that is read or shown, in digits. -/
def longestInteger : Nat := 4300

/-- White space around a numeral. The four separators of ASCII are none. -/
def isMargin (c : Char) : Bool :=
  isSpace c && !(0x1c ≤ c.toNat && c.toNat ≤ 0x1f)

/-- The text without white space at its ends. -/
def trimSpace (text : List Char) : List Char :=
  (((text.dropWhile isMargin).reverse).dropWhile isMargin).reverse

/-- The text with each decimal digit of any script replaced by that of ASCII. -/
def plainDigits (text : List Char) : List Char :=
  text.map fun c => match digitValue? c with
    | some value => Char.ofNat (48 + value)
    | none => c

/-- The value of a digit string in a base, most significant digit first. -/
def ofDigits (base : Nat) (digits : List Nat) : Nat :=
  digits.foldl (fun value digit => value * base + digit) 0

/-- The value of a digit of base sixteen or less. -/
def digitOf (c : Char) : Nat :=
  if isAsciiDigit c then c.toNat - 48
  else if 'a' ≤ c && c ≤ 'f' then c.toNat - 87
  else if 'A' ≤ c && c ≤ 'F' then c.toNat - 55
  else 0

/-- The text without its underscores, provided that each stands between two digits. -/
def dropUnderscores? : (before : Option Char) → List Char → Option (List Char)
  | _, [] => some []
  | before, '_' :: rest =>
    match before, rest with
    | some digit, next :: _ =>
      if isAsciiDigit digit && isAsciiDigit next then dropUnderscores? (some '_') rest else none
    | _, _ => none
  | _, c :: rest => (dropUnderscores? (some c) rest).map (c :: ·)

/-- A sign, whether it is a minus, and what follows it. -/
def takeSign : List Char → Bool × List Char
  | '-' :: rest => (true, rest)
  | '+' :: rest => (false, rest)
  | rest => (false, rest)

/-- The integer that a text writes, if it writes one. -/
def int? (text : String) : Option Int := do
  let (negative, body) := takeSign (plainDigits (trimSpace text.toList))
  let digits ← dropUnderscores? none body
  guard (!digits.isEmpty && digits.all isAsciiDigit && digits.length ≤ longestInteger)
  let value := ofDigits 10 (digits.map digitOf)
  pure (if negative then -(value : Int) else value)

/-- The floating-point number nearest to `digits · 10 ^ exponent`. Exponents far outside the range
of doubles give zero or infinity at once. -/
def nearest (digits : Nat) (exponent : Int) : Float :=
  if digits == 0 then 0.0
  else
    let place := exponent + (Nat.toDigits 10 digits).length
    if place > 400 then 1.0 / 0.0
    else if place < -400 then 0.0
    else Float.ofScientific digits (exponent < 0) exponent.natAbs

/-- The magnitude that `digits [. digits] [e [sign] digits]` writes. -/
def magnitude? (text : List Char) : Option Float := do
  let whole := text.takeWhile isAsciiDigit
  let rest := text.dropWhile isAsciiDigit
  let (fraction, rest) := match rest with
    | '.' :: tail => (tail.takeWhile isAsciiDigit, tail.dropWhile isAsciiDigit)
    | _ => ([], rest)
  guard (!(whole.isEmpty && fraction.isEmpty))
  let exponent ← match rest with
    | [] => some 0
    | mark :: tail =>
      if mark == 'e' || mark == 'E' then
        let (negative, digits) := takeSign tail
        if !digits.isEmpty && digits.all isAsciiDigit then
          let value := ofDigits 10 (digits.map digitOf)
          some (if negative then -(value : Int) else value)
        else none
      else none
  let digits := ofDigits 10 ((whole ++ fraction).map digitOf)
  pure (nearest digits (exponent - fraction.length))

/-- A word in lower case, for the names of the values that have no digits. -/
private def lowerWord (text : List Char) : List Char :=
  text.map fun c => if 'A' ≤ c && c ≤ 'Z' then Char.ofNat (c.toNat + 32) else c

/-- The floating-point number that a text writes, if it writes one. -/
def float? (text : String) : Option Float := do
  let plain ← dropUnderscores? none (plainDigits (trimSpace text.toList))
  let (negative, body) := takeSign plain
  let word := String.ofList (lowerWord body)
  let value ←
    if word == "inf" || word == "infinity" then some (1.0 / 0.0)
    else if word == "nan" then some (0.0 / 0.0)
    else magnitude? body
  pure (if negative then -value else value)

end Structex.Decimal
