import Structex.Decimal.Notation
import Structex.Decimal.Numeral
import Structex.Text.Quoted
import Structex.Text.Split
import Structex.Value.Basic

/-!
# Values in messages

The text that messages give for a value. `shown` marks texts by quotes and names the parts of
dates, so that values of different kinds look different; `plain` is the text itself for a text and
the calendar form for a date. A value has no text if an integer in it is too long.
-/

namespace Structex

/-- A day by its parts. -/
def Date.shown (date : Date) : String :=
  "datetime.date(" ++ toString date.year ++ ", " ++ toString date.month ++ ", " ++
    toString date.day ++ ")"

/-- A distance from universal time by its parts: whole days below zero, then seconds. -/
def offsetShown (minutes : Int) : String :=
  if minutes == 0 then "datetime.timezone.utc"
  else
    let seconds := (minutes * 60) % 86400
    "datetime.timezone(datetime.timedelta(" ++
      (if minutes < 0 then "days=-1, " else "") ++ "seconds=" ++ toString seconds ++ "))"

/-- A moment by its parts; a zero microsecond is left out, and with it a zero second. -/
def Moment.shown (moment : Moment) : String :=
  "datetime.datetime(" ++ toString moment.date.year ++ ", " ++ toString moment.date.month ++
    ", " ++ toString moment.date.day ++ ", " ++ toString moment.hour ++ ", " ++
    toString moment.minute ++
    (if moment.microsecond != 0 then
      ", " ++ toString moment.second ++ ", " ++ toString moment.microsecond
    else if moment.second != 0 then ", " ++ toString moment.second
    else "") ++
    (match moment.offset with | some minutes => ", tzinfo=" ++ offsetShown minutes | none => "") ++
    ")"

/-- The names of the flags of a pattern that messages show. -/
def Regex.Flags.shown (flags : Regex.Flags) : List String :=
  (if flags.plain then ["re.TEMPLATE"] else []) ++
  (if flags.ignoreCase then ["re.IGNORECASE"] else []) ++
  (if flags.multiline then ["re.MULTILINE"] else []) ++
  (if flags.dotAll then ["re.DOTALL"] else []) ++
  (if flags.verbose then ["re.VERBOSE"] else []) ++
  (if flags.ascii then ["re.ASCII"] else [])

/-- A pattern in a message: the first two hundred characters of its quoted source, and its
flags. -/
def Regex.Pattern.shown (pattern : Regex.Pattern) : String :=
  "re.compile(" ++ Text.slice (Text.quoted pattern.source) 0 200 ++
    (if pattern.flags.shown.isEmpty then ""
    else ", " ++ String.intercalate "|" pattern.flags.shown) ++ ")"

namespace Value

mutual

/-- The text of a value in which kinds can be told apart. -/
def shown : Value → String
  | .null => "None"
  | .bool true => "True"
  | .bool false => "False"
  | .int number => toString number
  | .float number => Decimal.shown.render number
  | .str text => Text.quoted text
  | .date day => day.shown
  | .moment time => time.shown
  | .list items => "[" ++ shownItems items ++ "]"
  | .tuple [item] => "(" ++ shown item ++ ",)"
  | .tuple items => "(" ++ shownItems items ++ ")"
  | .map entries => "\x7b" ++ shownEntries entries ++ "\x7d"
  | .pattern ready => ready.shown
  | .record traits _ => traits.shown
  | .object traits _ => traits.shown

/-- The texts of items with commas between them. -/
def shownItems : List Value → String
  | [] => ""
  | [item] => shown item
  | item :: rest => shown item ++ ", " ++ shownItems rest

/-- The texts of entries with commas between them. -/
def shownEntries : List (Value × Value) → String
  | [] => ""
  | [(key, item)] => shown key ++ ": " ++ shown item
  | (key, item) :: rest => shown key ++ ": " ++ shown item ++ ", " ++ shownEntries rest

end

mutual

/-- Whether every integer in a value can be written. -/
def isWritable : Value → Bool
  | .int number => Decimal.digitCount number.natAbs ≤ Decimal.longestInteger
  | .list items => areWritable items
  | .tuple items => areWritable items
  | .map entries => entriesAreWritable entries
  | _ => true

/-- Whether every integer in some items can be written. -/
def areWritable : List Value → Bool
  | [] => true
  | item :: rest => isWritable item && areWritable rest

/-- Whether every integer in some entries can be written. -/
def entriesAreWritable : List (Value × Value) → Bool
  | [] => true
  | (key, item) :: rest => isWritable key && isWritable item && entriesAreWritable rest

end

/-- The text of a value that stands by itself. -/
def plain : Value → String
  | .str text => text
  | .date day => day.text
  | .moment time => time.text
  | .record traits _ => traits.plain
  | .object traits _ => traits.plain
  | value => value.shown

end Value

end Structex
