import Structex.Command.Checked

/-!
# Builders

A text together with the commands that are to be applied to it, put together step by step. Nothing
runs until the value is asked for. A step without an inner command keeps the text for matches and
gaps, filters for the two guards, and narrows for ranges. On matches and gaps a command that counts
as a no is taken for none.
-/

namespace Structex

/-- A step of a builder was given something that is no command. -/
inductive StepFault where
  | notCommand (typeName : String)

/-- What was put into a builder for a step. -/
inductive Pushed (m : Type → Type) where
  | command (run : Command m)
  | value (given : Value)

/-- What is put into a builder for what is given. -/
def CommandArgument.pushed {m : Type → Type} : CommandArgument m → Pushed m
  | .command given => .command given.run
  | .value given => .value given

/-- A text and the steps that are to be applied to it. -/
structure Builder (m : Type → Type) where
  text : String
  steps : List (Pushed m)

namespace Builder

variable {m : Type → Type} [Monad m]

/-- A builder without steps. -/
def start (text : String) : Builder m :=
  ⟨text, []⟩

/-- The builder with one step more. Whether it is a command shows when the value is asked for. -/
def apply (builder : Builder m) (step : CommandArgument m) : Builder m :=
  { builder with steps := builder.steps ++ [step.pushed] }

/-- The builder with one command more. -/
def push (builder : Builder m) (command : Command m) : Builder m :=
  { builder with steps := builder.steps ++ [.command command] }

/-- A step on every match. -/
def onMatches (builder : Builder m) (given : PatternArgument) (inner : CommandArgument m) :
    Except CommandFault (Builder m) := do
  return builder.push (← Checked.onMatches given inner.orKeep)

/-- A step on every gap. -/
def onGaps (builder : Builder m) (given : PatternArgument) (inner : CommandArgument m) :
    Except CommandFault (Builder m) := do
  return builder.push (← Checked.onGaps given inner.orKeep)

/-- A step where the pattern matches; without a command, a text in which it does not is
dropped. -/
def whenMatched (builder : Builder m) (given : PatternArgument) (inner : CommandArgument m) :
    Except CommandFault (Builder m) := do
  if inner.isAbsent then return builder.push (Command.keepMatched (← Checked.pattern given))
  else return builder.push (← Checked.whenMatched given inner)

/-- A step where the pattern does not match; without a command, a text in which it does is
dropped. -/
def unlessMatched (builder : Builder m) (given : PatternArgument) (inner : CommandArgument m) :
    Except CommandFault (Builder m) := do
  if inner.isAbsent then return builder.push (Command.keepUnmatched (← Checked.pattern given))
  else return builder.push (← Checked.unlessMatched given inner)

/-- A substitution. -/
def substitute (builder : Builder m) (given : PatternArgument)
    (replacement : ReplacementArgument m) : Except CommandFault (Builder m) := do
  return builder.push (← Checked.substitute given replacement)

/-- A step on a range of characters; without a command, the range alone is kept. -/
def onCharacters (builder : Builder m) (start : Int) (stop : Option Int)
    (inner : CommandArgument m) : Except CommandFault (Builder m) := do
  if inner.isAbsent then return builder.push (Command.narrowCharacters start stop)
  else return builder.push (← Checked.onCharacters start stop inner)

/-- A step on a range of lines; without a command, the range alone is kept. -/
def onLines (builder : Builder m) (start : Int) (stop : Option Int)
    (inner : CommandArgument m) : Except CommandFault (Builder m) := do
  if inner.isAbsent then return builder.push (Command.narrowLines start stop)
  else return builder.push (← Checked.onLines start stop inner)

/-- Applies one step to a text. -/
def runStep [MonadExceptOf StepFault m] (step : Pushed m) (text : String) : m String :=
  match step with
  | .command run => run text
  | .value given => throw (.notCommand given.typeName)

/-- The text after all steps. -/
def value [MonadExceptOf StepFault m] (builder : Builder m) : m String :=
  builder.steps.foldlM (fun text step => runStep step text) builder.text

/-- The pattern that is given, or a refusal in the context. -/
def ready [MonadExceptOf PatternFault m] (given : PatternArgument) : m Regex.Pattern :=
  match given.compile {} with
  | .ok pattern => pure pattern
  | .error fault => throw fault

variable [MonadExceptOf StepFault m] [MonadExceptOf PatternFault m]

/-- The matches of a pattern in the value. The value is found before the pattern is read. -/
def matchDetails (builder : Builder m) (given : PatternArgument) : m (List Match) := do
  let text ← builder.value
  let pattern ← ready given
  return pattern.findMatches text

/-- The texts of the matches of a pattern in the value. -/
def matchTexts (builder : Builder m) (given : PatternArgument) : m (List String) := do
  return (← builder.matchDetails given).map (·.text)

/-- The value cut at the matches of a pattern. The pattern is read before the value is found. -/
def split (builder : Builder m) (given : PatternArgument) : m (List (Option String)) := do
  let pattern ← ready given
  return pattern.cut (← builder.value)

/-- Whether a pattern matches in the value. The pattern is read before the value is found. -/
def test (builder : Builder m) (given : PatternArgument) : m Bool := do
  let pattern ← ready given
  return pattern.containsMatch (← builder.value)

/-- The builder in a message: its text and how many steps it has. -/
def shown {m : Type → Type} (builder : Builder m) : String :=
  "<SRE text=" ++ Text.quoted builder.text ++ " steps=" ++ toString builder.steps.length ++ ">"

end Builder

end Structex
