import Structex.Value.Show

/-!
# Patterns given from outside

Where a pattern is asked for, either a pattern that is ready or any value may be given; a text is
read as a pattern, and a value other than a text or a pattern is refused.
-/

namespace Structex

/-- What is given for a pattern. -/
inductive PatternArgument where
  | compiled (pattern : Regex.Pattern)
  | value (given : Value)
  deriving Inhabited

/-- Why what is given is no pattern. -/
inductive PatternFault where
  | source (fault : Regex.Fault)
  | kind (typeName : String)
  deriving DecidableEq, Repr

namespace PatternFault

/-- The message of a fault. -/
def message : PatternFault → String
  | .source fault => fault.message
  | .kind typeName => "Expected str or compiled pattern, got " ++ typeName

end PatternFault

namespace PatternArgument

/-- The pattern that is given; flags are for a text alone. -/
def compile (argument : PatternArgument) (flags : Regex.Flags) :
    Except PatternFault Regex.Pattern :=
  match argument with
  | .compiled pattern => .ok pattern
  | .value (.str source) => (Regex.Pattern.parse source flags).mapError .source
  | .value (.pattern pattern) => .ok pattern
  | .value other => .error (.kind other.typeName)

end PatternArgument

/-- What is given for a pattern, in a message. -/
def PatternArgument.shown : PatternArgument → String
  | .compiled pattern => pattern.shown
  | .value given => given.shown

end Structex
