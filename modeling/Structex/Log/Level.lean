import Structex.Text.Case
import Structex.Value.Basic

/-!
# Log levels

The named levels with their numbers. A channel's level is a number and may be one that has no
name; a level is asked for by name in any case, or by number.
-/

namespace Structex.Log

/-- A named level. -/
inductive Level where
  | debug
  | info
  | warning
  | error
  | critical
  deriving DecidableEq, Repr

/-- Why something about levels cannot be done. -/
inductive LevelFault where
  | unknownName (name : String)
  /-- What is given is neither a name nor a number. -/
  | kind (typeName : String)
  /-- The number has no name. -/
  | unnamed (number : Int)
  deriving DecidableEq, Repr

namespace Level

/-- The levels from the lowest. -/
def all : List Level := [.debug, .info, .warning, .error, .critical]

/-- The number of a level. -/
def number : Level → Int
  | .debug => 10
  | .info => 20
  | .warning => 30
  | .error => 40
  | .critical => 50

/-- The name of a level. -/
def name : Level → String
  | .debug => "DEBUG"
  | .info => "INFO"
  | .warning => "WARNING"
  | .error => "ERROR"
  | .critical => "CRITICAL"

/-- The upper case of a character where it is made of letters of ASCII; any other character is
kept. Beyond ASCII these are the dotless and the long letter, the sharp one and the ligatures. -/
def upper (c : Char) : List Char :=
  if 'a' ≤ c && c ≤ 'z' then [Char.ofNat (c.toNat - 32)]
  else match c.toNat with
    | 0x131 => ['I']
    | 0x17f => ['S']
    | 0xdf => ['S', 'S']
    | 0xfb00 => ['F', 'F']
    | 0xfb01 => ['F', 'I']
    | 0xfb02 => ['F', 'L']
    | 0xfb03 => ['F', 'F', 'I']
    | 0xfb04 => ['F', 'F', 'L']
    | 0xfb05 => ['S', 'T']
    | 0xfb06 => ['S', 'T']
    | _ => [c]

/-- The level of a name in any case. -/
def ofName? (name : String) : Option Level :=
  let wanted := String.ofList (name.toList.flatMap upper)
  all.find? fun level => level.name == wanted

/-- The level of a number. -/
def ofNumber? (number : Int) : Option Level :=
  all.find? fun level => level.number == number

/-- The number of the level that a value asks for. -/
def numberOf : Value → Except LevelFault Int
  | .str name =>
    match ofName? name with
    | some level => .ok level.number
    | none => .error (.unknownName name)
  | .int number => .ok number
  | .bool flag => .ok (if flag then 1 else 0)
  | other => .error (.kind other.typeName)

end Level

end Structex.Log
