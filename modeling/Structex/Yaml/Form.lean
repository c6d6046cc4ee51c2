import Structex.Match
import Structex.Yaml.Node

/-!
# Forms of scalars

What a scalar stands for. A plain scalar without a tag goes by its form: the words for truth values
and null, integers in four bases or by sixties, floating-point numbers, days and moments. Any other
scalar is a text, unless a tag says what to take it for.
-/

namespace Structex.Yaml

/-- What a scalar is taken for. -/
inductive Form where
  | null
  | bool
  | int
  | float
  | time
  | merge
  /-- The sign that stands for the default of a mapping. -/
  | equals
  | text
  deriving DecidableEq, Repr

namespace Form

/-- The pattern that a source writes. -/
def pattern (source : String) : Regex.Pattern :=
  match Regex.Pattern.parse source {} with
  | .ok pattern => pattern
  | .error _ => default

/-- Integers: binary, octal, decimal, hexadecimal, and by sixties. -/
def integers : Regex.Pattern := pattern <|
  "\\A(?:[-+]?0b[01_]+|[-+]?0[0-7_]+|[-+]?(?:0|[1-9][0-9_]*)|[-+]?0x[0-9a-fA-F_]+|" ++
    "[-+]?[1-9][0-9_]*(?::[0-5]?[0-9])+)\\Z"

/-- Floating-point numbers: with a point, by sixties, and the values without digits. -/
def floats : Regex.Pattern := pattern <|
  "\\A(?:[-+]?[0-9][0-9_]*\\.[0-9_]*(?:[eE][-+][0-9]+)?|\\.[0-9][0-9_]*(?:[eE][-+][0-9]+)?|" ++
    "[-+]?[0-9][0-9_]*(?::[0-5]?[0-9])+\\.[0-9_]*|[-+]?\\.(?:inf|Inf|INF)|\\.(?:nan|NaN|NAN))\\Z"

/-- Days without a time. -/
def days : Regex.Pattern := pattern <|
  "\\A[0-9][0-9][0-9][0-9]-[0-9][0-9]-[0-9][0-9]\\Z"

/-- Days and moments, with the parts of the distance from universal time last. -/
def times : Regex.Pattern := pattern <|
  "\\A([0-9][0-9][0-9][0-9])-([0-9][0-9]?)-([0-9][0-9]?)(?:(?:[Tt]|[ \\t]+)" ++
    "([0-9][0-9]?):([0-9][0-9]):([0-9][0-9])(?:\\.([0-9]*))?" ++
    "(?:[ \\t]*(?:(Z)|([-+])([0-9][0-9]?)(?::([0-9][0-9]))?))?)?\\Z"

/-- Whether a text is a day, or a moment; a day without a time has two digits in each part. -/
def isTime (text : String) : Bool :=
  days.containsMatch text || (times.firstMatch? text).any fun found => (found.group? 4).isSome

/-- The words for a truth value. -/
def truthWords (flag : Bool) : List String :=
  if flag then ["yes", "Yes", "YES", "true", "True", "TRUE", "on", "On", "ON"]
  else ["no", "No", "NO", "false", "False", "FALSE", "off", "Off", "OFF"]

/-- The words for null. -/
def nullWords : List String := ["", "~", "null", "Null", "NULL"]

/-- The form of a plain scalar. -/
def ofPlain (text : String) : Form :=
  if (truthWords true).contains text || (truthWords false).contains text then .bool
  else if floats.containsMatch text then .float
  else if integers.containsMatch text then .int
  else if text == "<<" then .merge
  else if nullWords.contains text then .null
  else if isTime text then .time
  else if text == "=" then .equals
  else .text

/-- The form that a tag asks for, if it asks for one. -/
def ofTag? (tag : String) : Option Form :=
  let named : List (String × Form) := [("null", .null), ("bool", .bool), ("int", .int),
    ("float", .float), ("timestamp", .time), ("str", .text)]
  (named.find? fun entry => Node.ownTags ++ entry.1 == tag).map (·.2)

end Form

/-! ## Values of scalars -/

/-- The number that digits of a base write. -/
def digitsIn? (base : Nat) (digits : List Char) : Option Nat :=
  let values := digits.map Decimal.digitOf
  if !digits.isEmpty && digits.all Char.isAlphanum && values.all (· < base) then
    some (Decimal.ofDigits base values)
  else none

/-- A value by sixties, the last place first. -/
def bySixties (places : List Int) : Int :=
  places.foldr (fun place value => place + 60 * value) 0

/-- The integer that a scalar writes. -/
def integer? (text : String) : Option Int := do
  let (negative, body) := Decimal.takeSign (text.toList.filter (· != '_'))
  let magnitude : Int ← match body with
    | [] => none
    | ['0'] => some 0
    | '0' :: 'b' :: digits => (digitsIn? 2 digits).map Int.ofNat
    | '0' :: 'x' :: digits => (digitsIn? 16 digits).map Int.ofNat
    | '0' :: digits => (digitsIn? 8 digits).map Int.ofNat
    | body =>
      if body.contains ':' then do
        let places ← (Text.splitChars ':' body).mapM fun part => Decimal.int? (String.ofList part)
        some (bySixties places.reverse)
      else Decimal.int? (String.ofList body)
  return if negative then -magnitude else magnitude

/-- A value by sixties, the last place first, with the places below added up first. -/
def floatBySixties (places : List Float) : Float :=
  (places.foldl (fun (sum : Float × Float) place =>
    (sum.1 + place * sum.2, sum.2 * 60.0)) (0.0, 1.0)).1

/-- The floating-point number that a scalar writes. -/
def float? (text : String) : Option Float := do
  let lower := text.toList.filterMap fun c => if c == '_' then none else some c.toLower
  let (negative, body) := Decimal.takeSign lower
  let magnitude ←
    if body == ".inf".toList then some (1.0 / 0.0)
    else if body == ".nan".toList then some (0.0 / 0.0)
    else if body.contains ':' then do
      let places ← (Text.splitChars ':' body).mapM fun part => Decimal.float? (String.ofList part)
      some (floatBySixties places.reverse)
    else Decimal.float? (String.ofList body)
  return if negative then -magnitude else magnitude

/-- The first six digits after the point, as microseconds. -/
def microseconds (digits : String) : Nat :=
  let kept := digits.toList.take 6
  Decimal.ofDigits 10 (kept.map Decimal.digitOf) * Nat.pow 10 (6 - kept.length)

/-- The day or the moment that a scalar writes. -/
def time? (text : String) : Option Value := do
  let found ← Form.times.firstMatch? text
  let number (group : Nat) : Nat :=
    Decimal.ofDigits 10 (((found.group? group).getD "").toList.map Decimal.digitOf)
  let date ← Date.ofParts? (number 1) (number 2) (number 3)
  if (found.group? 4).isNone then return .date date
  else
    let minutes : Int := number 10 * 60 + number 11
    let offset := match found.group? 9, found.group? 8 with
      | some sign, _ => some (if sign == "-" then -minutes else minutes)
      | none, some _ => some 0
      | none, none => none
    return .moment (← Moment.ofParts? date (number 4) (number 5) (number 6)
      (microseconds ((found.group? 7).getD "")) offset)

/-- The value of a scalar that is taken for something. -/
def Form.value (form : Form) (text : String) : Except Fault Value :=
  let orNone {α : Type} (build : α → Value) : Option α → Except Fault Value
    | some value => .ok (build value)
    | none => .error .noSuchValue
  match form with
  | .null => .ok .null
  | .bool =>
    let lower := String.ofList (text.toList.map Char.toLower)
    if (truthWords true).contains lower then .ok (.bool true)
    else if (truthWords false).contains lower then .ok (.bool false)
    else .error .noSuchValue
  | .int => orNone .int (integer? text)
  | .float => orNone .float (float? text)
  | .time => orNone id (time? text)
  | .merge => .error .unknownTag
  | .equals => .error .unknownTag
  | .text => .ok (.str text)

end Structex.Yaml
