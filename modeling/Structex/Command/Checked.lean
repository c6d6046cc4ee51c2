import Structex.Command.Range
import Structex.Command.Replacement
import Structex.Command.Selection
import Structex.Regex.Argument

/-!
# Commands from what is given

Commands built from arguments that may be of any kind: the pattern is read first, then each inner
command must be one. What is refused says which argument is wrong. A command that is given may count
as a no where that is asked, as something that can be called does if it says so itself.
-/

namespace Structex

/-- A command as it is given, and whether it counts as a yes. -/
structure GivenCommand (m : Type → Type) where
  run : Command m
  isTruthy : Bool

/-- What is given for a command. -/
inductive CommandArgument (m : Type → Type) where
  | command (given : GivenCommand m)
  | value (given : Value)

/-- What is given for a replacement. -/
inductive ReplacementArgument (m : Type → Type) where
  | function (replace : Match → m String)
  | value (given : Value)

/-- Why no command comes of its arguments. -/
inductive CommandFault where
  | pattern (fault : PatternFault)
  | notCommand (role typeName : String)
  | replacementKind (typeName : String)
  | pipeArgument (index : Nat) (given : Value)

/-- The message of a fault. -/
def CommandFault.message : CommandFault → String
  | .pattern fault => fault.message
  | .notCommand role typeName => role ++ " must be callable, got " ++ typeName
  | .replacementKind typeName => "replacement must be str or callable, got " ++ typeName
  | .pipeArgument index given =>
    "pipe argument " ++ toString index ++ " is not callable: " ++ given.shown

namespace CommandArgument

variable {m : Type → Type}

/-- The command that is given; the role names it in a refusal. -/
def require (role : String) : CommandArgument m → Except CommandFault (Command m)
  | .command given => .ok given.run
  | .value given => .error (.notCommand role given.typeName)

/-- Whether what is given counts as a yes. -/
def isTruthy : CommandArgument m → Bool
  | .command given => given.isTruthy
  | .value given => given.isTruthy

/-- A command that counts as a yes, as functions do. -/
def ofCommand (command : Command m) : CommandArgument m :=
  .command ⟨command, true⟩

/-- What is given, or the command that keeps the text where that counts as a no. -/
def orKeep [Monad m] (argument : CommandArgument m) : CommandArgument m :=
  if argument.isTruthy then argument else ofCommand Command.keep

/-- Whether nothing is given. -/
def isAbsent : CommandArgument m → Bool
  | .command _ => false
  | .value given => given.isNull

end CommandArgument

namespace Checked

variable {m : Type → Type} [Monad m]

/-- The pattern that is given for a command. -/
def pattern (argument : PatternArgument) : Except CommandFault Regex.Pattern :=
  (argument.compile {}).mapError .pattern

/-- A command on what a pattern selects, from the pattern and one inner command. -/
def selecting {α : Type} (build : Regex.Pattern → Command m → α) (given : PatternArgument)
    (inner : CommandArgument m) : Except CommandFault α := do
  let ready ← pattern given
  let command ← inner.require "cmd"
  return build ready command

/-- A command on every match. -/
def onMatches (given : PatternArgument) (inner : CommandArgument m) :
    Except CommandFault (Command m) :=
  selecting Command.onMatches given inner

/-- A command on every gap. -/
def onGaps (given : PatternArgument) (inner : CommandArgument m) :
    Except CommandFault (Command m) :=
  selecting Command.onGaps given inner

/-- A command where the pattern matches. -/
def whenMatched (given : PatternArgument) (inner : CommandArgument m) :
    Except CommandFault (Command m) :=
  selecting Command.whenMatched given inner

/-- A command where the pattern does not match. -/
def unlessMatched (given : PatternArgument) (inner : CommandArgument m) :
    Except CommandFault (Command m) :=
  selecting Command.unlessMatched given inner

/-- A command on the first match. -/
def onFirstMatch (given : PatternArgument) (inner : CommandArgument m) :
    Except CommandFault (Command m) :=
  selecting Command.onFirstMatch given inner

/-- What a command makes of every match. -/
def mapMatches (given : PatternArgument) (inner : CommandArgument m) :
    Except CommandFault (String → m (List String)) :=
  selecting Command.mapMatches given inner

/-- One of two commands. -/
def ifMatched (given : PatternArgument) (present absent : CommandArgument m) :
    Except CommandFault (Command m) := do
  let ready ← pattern given
  let present ← present.require "then_cmd"
  let absent ← absent.require "else_cmd"
  return Command.ifMatched ready present absent

/-- Substitution by a replacement or by a function of the match. -/
def substitute (given : PatternArgument) (replacement : ReplacementArgument m) :
    Except CommandFault (Command m) := do
  let ready ← pattern given
  match replacement with
  | .function replace => return Command.substituteWith ready replace
  | .value (.str text) => return Command.substitute ready text
  | .value other => throw (.replacementKind other.typeName)

/-- A command on a range of characters. -/
def onCharacters (start : Int) (stop : Option Int) (inner : CommandArgument m) :
    Except CommandFault (Command m) := do
  return Command.onCharacters start stop (← inner.require "cmd")

/-- A command on a range of lines. -/
def onLines (start : Int) (stop : Option Int) (inner : CommandArgument m) :
    Except CommandFault (Command m) := do
  return Command.onLines start stop (← inner.require "cmd")

/-- The commands that are given, the first of them at the index. -/
def pipeFrom : (index : Nat) → List (CommandArgument m) → Except CommandFault (List (Command m))
  | _, [] => .ok []
  | index, .value given :: _ => .error (.pipeArgument index given)
  | index, .command given :: rest => (pipeFrom (index + 1) rest).map (given.run :: ·)

/-- Commands one after another. -/
def pipe (steps : List (CommandArgument m)) : Except CommandFault (Command m) :=
  (pipeFrom 0 steps).map Command.pipe

end Checked

end Structex
