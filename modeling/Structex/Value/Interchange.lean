import Structex.Value.Show

/-!
# Interchange text

The compact text of a value that patterns over payloads see: objects and arrays without blanks,
keys in order, characters beyond ASCII kept. Dates and objects are written as texts. Keys that are
numbers, truth values or null are written as texts too; other keys have no form.
-/

namespace Structex

/-- Why a value has no interchange text. -/
inductive InterchangeFault where
  /-- A key is neither a text nor a number, a truth value or null. -/
  | keyKind (typeName : String)
  /-- An integer has more digits than are ever written. -/
  | integerTooLong
  deriving DecidableEq, Repr

namespace Interchange

/-- How one character stands in a text. -/
def escapeChar (c : Char) : List Char :=
  if c == '"' then ['\\', '"']
  else if c == '\\' then ['\\', '\\']
  else if c == '\n' then ['\\', 'n']
  else if c == '\r' then ['\\', 'r']
  else if c == '\t' then ['\\', 't']
  else if c.toNat == 8 then ['\\', 'b']
  else if c.toNat == 12 then ['\\', 'f']
  else if c.toNat < 32 then '\\' :: 'u' :: Text.hexDigits 4 c.toNat
  else [c]

/-- A text between double quotes. -/
def quote (text : String) : String :=
  String.ofList ('"' :: text.toList.flatMap escapeChar ++ ['"'])

/-- The most digits of an integer that is written. -/
def longestInteger : Nat := 4300

/-- An integer in decimal. -/
def integer (number : Int) : Except InterchangeFault String :=
  if Decimal.digitCount number.natAbs ≤ longestInteger then .ok (toString number)
  else .error .integerTooLong

/-- A key as text. -/
def key : Value → Except InterchangeFault String
  | .str text => .ok (quote text)
  | .null => .ok (quote "null")
  | .bool true => .ok (quote "true")
  | .bool false => .ok (quote "false")
  | .int number => quote <$> integer number
  | .float number => .ok (quote (Decimal.interchange.render number))
  | other => .error (.keyKind other.typeName)

mutual

/-- The text of a value. -/
def text : Value → Except InterchangeFault String
  | .null => .ok "null"
  | .bool true => .ok "true"
  | .bool false => .ok "false"
  | .int number => integer number
  | .float number => .ok (Decimal.interchange.render number)
  | .str content => .ok (quote content)
  | .date day => .ok (quote day.text)
  | .moment time => .ok (quote time.text)
  | .list values => do return "[" ++ (← items values) ++ "]"
  | .tuple values => do return "[" ++ (← items values) ++ "]"
  | .map pairs => do return "\x7b" ++ (← entries pairs) ++ "\x7d"
  | .pattern ready => .ok (quote ready.shown)
  | .record traits _ => .ok (quote traits.plain)
  | .object traits _ => .ok (quote traits.plain)

/-- The texts of items with commas between them. -/
def items : List Value → Except InterchangeFault String
  | [] => .ok ""
  | [item] => text item
  | item :: rest => do return (← text item) ++ "," ++ (← items rest)

/-- The texts of entries with commas between them. -/
def entries : List (Value × Value) → Except InterchangeFault String
  | [] => .ok ""
  | [(name, item)] => do return (← key name) ++ ":" ++ (← text item)
  | (name, item) :: rest => do
    return (← key name) ++ ":" ++ (← text item) ++ "," ++ (← entries rest)

end

end Interchange

end Structex
