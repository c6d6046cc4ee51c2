import Structex.Decimal.Numeral
import Structex.Settings.Loading
import Structex.Text.Case

/-!
# Settings from the environment

Variables whose names begin with the library's mark set what stands under its name, two
underscores in a variable's name leading from a section into one within it. Their texts are read as
truth values, integers and floating-point numbers where they are such.
-/

namespace Structex

namespace Environment

/-- What the names of the library's variables begin with. -/
def mark : String := "PIKESRE_"

/-- The pieces of a text between pairs of underscores. -/
def splitPairs : List Char → List (List Char)
  | [] => [[]]
  | '_' :: '_' :: rest => [] :: splitPairs rest
  | c :: rest =>
    match splitPairs rest with
    | [] => [[c]]
    | piece :: pieces => (c :: piece) :: pieces

/-- The path that a variable sets, if it sets one. -/
def path? (name : String) : Option (List String) := do
  guard (mark.toList.isPrefixOf name.toList)
  let pieces := splitPairs (Text.lowerText (name.toList.drop mark.length))
  guard (pieces.all fun piece => !piece.isEmpty)
  return pieces.map String.ofList

/-- The value that a variable's text writes. -/
def value (text : String) : Value :=
  let lower := String.ofList (Text.lowerText text.toList)
  if lower == "true" || lower == "yes" then .bool true
  else if lower == "false" || lower == "no" then .bool false
  else
    match Decimal.int? text, Decimal.float? text with
    | some number, _ => .int number
    | none, some number => .float number
    | none, none => .str text

/-- What is set once a variable is. -/
def assign (content : Value) (setting : String × String) : Except PathFault Value :=
  match path? setting.1 with
  | some path => Value.putAt (value setting.2) path content
  | none => .ok content

/-- The environment with variables set one after another; one that is set again keeps its
place. -/
def ofAssignments (assignments : List (String × String)) : List (String × String) :=
  assignments.foldl (fun known setting =>
    if known.any (·.1 == setting.1) then
      known.map fun other => if other.1 == setting.1 then setting else other
    else known ++ [setting]) []

end Environment

/-- Why no settings come of a file and an environment. -/
inductive StartFault where
  | file (fault : LoadFault)
  | environment (fault : PathFault)
  deriving DecidableEq, Repr

namespace Settings

/-- The settings with what the environment sets. -/
def loadEnvironment (settings : Settings) (assignments : List (String × String)) :
    Except PathFault Settings := do
  match ← assignments.foldlM Environment.assign (Value.map []) with
  | .map [] => return settings
  | content => return settings.withLayer .environment (some (mapping [(ownKey, content)]))

/-- The settings that a program starts with: the defaults, those of a file if one is named, and
those of an environment if there is one. -/
def start (reader : TextReader) (files : Files) (file : String)
    (environment : Option (List (String × String))) : Except StartFault Settings := do
  let settings ←
    if file.isEmpty then pure initial
    else (initial.loadFile reader files file .user).mapError .file
  match environment with
  | some assignments => (settings.loadEnvironment assignments).mapError .environment
  | none => return settings

end Settings

end Structex
