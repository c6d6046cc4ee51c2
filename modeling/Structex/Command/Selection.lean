import Structex.Command.Basic
import Structex.Region

/-!
# Commands that a pattern selects for

Commands that apply another command to parts of a text chosen by a pattern — to its matches, to
the gaps between them, to the first match — or to the whole text if the pattern matches or does
not match in it. What is not chosen is kept.
-/

namespace Structex.Command

open Structex.Regex (Pattern)

variable {m : Type → Type} [Monad m]

/-- Applies a command to every match and keeps the text between. -/
def onMatches (pattern : Pattern) (command : Command m) : Command m :=
  fun text =>
    Pattern.replaceFrom text (fun found => command found.text) 0 (pattern.findMatches text)

/-- The text from an offset on with a command applied to the gaps that are not empty. -/
def gapsFrom (text : String) (command : Command m) : (last : Nat) → List Match → m String
  | last, [] =>
    if last < text.length then command (Text.slice text last text.length) else pure ""
  | last, found :: rest => do
    let put ← if last < found.start then command (Text.slice text last found.start) else pure ""
    let tail ← gapsFrom text command found.stop rest
    pure (put ++ found.text ++ tail)

/-- Applies a command to every gap between matches that is not empty and keeps the matches. A text
without a match is one gap, even if it is empty. -/
def onGaps (pattern : Pattern) (command : Command m) : Command m :=
  fun text =>
    match pattern.findMatches text with
    | [] => command text
    | found => gapsFrom text command 0 found

/-- Applies a command to the whole text if the pattern matches somewhere. -/
def whenMatched (pattern : Pattern) (command : Command m) : Command m :=
  fun text => if pattern.containsMatch text then command text else pure text

/-- Applies a command to the whole text if the pattern matches nowhere. -/
def unlessMatched (pattern : Pattern) (command : Command m) : Command m :=
  fun text => if pattern.containsMatch text then pure text else command text

/-- Applies one command to a text with a match and another to a text without. -/
def ifMatched (pattern : Pattern) (present absent : Command m) : Command m :=
  fun text => if pattern.containsMatch text then present text else absent text

/-- Applies a command to the first match and keeps the rest. -/
def onFirstMatch (pattern : Pattern) (command : Command m) : Command m :=
  fun text =>
    match pattern.firstMatch? text with
    | none => pure text
    | some found => do
      let put ← command found.text
      pure (Text.slice text 0 found.start ++ put ++ Text.slice text found.stop text.length)

/-- What a command makes of each match, without the text between. -/
def mapMatches (pattern : Pattern) (command : Command m) (text : String) : m (List String) :=
  (pattern.findMatches text).mapM fun found => command found.text

/-- Keeps a text in which the pattern matches and drops any other. -/
def keepMatched (pattern : Pattern) : Command m :=
  fun text => pure (if pattern.containsMatch text then text else "")

/-- Keeps a text in which the pattern does not match and drops any other. -/
def keepUnmatched (pattern : Pattern) : Command m :=
  fun text => pure (if pattern.containsMatch text then "" else text)

end Structex.Command
