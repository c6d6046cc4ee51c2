import Structex.Command.Basic
import Structex.Text.Split

/-!
# Commands on ranges

Ranges of characters and of lines, given by two ends of which a negative one counts from the end
and a missing second one means the end. Ends beyond the text are taken to be its ends, and a range
whose end lies before its start is empty at its start.
-/

namespace Structex

/-- An end of a range as an offset into so many items. -/
def resolveEnd (length : Nat) (index : Int) : Nat :=
  if index < 0 then ((length : Int) + index).toNat else min index.toNat length

/-- The offsets that a range of so many items begins and ends at. -/
def resolveRange (start : Int) (stop : Option Int) (length : Nat) : Nat × Nat :=
  let first := resolveEnd length start
  let last := match stop with
    | none => length
    | some stop => resolveEnd length stop
  (first, max first last)

theorem resolveEnd_le (length : Nat) (index : Int) : resolveEnd length index ≤ length := by
  unfold resolveEnd
  split <;> omega

/-- A resolved range lies within the items and does not end before it begins. -/
theorem resolveRange_bounds (start : Int) (stop : Option Int) (length : Nat) :
    (resolveRange start stop length).1 ≤ (resolveRange start stop length).2 ∧
      (resolveRange start stop length).2 ≤ length := by
  have first := resolveEnd_le length start
  cases stop with
  | none => simp [resolveRange]; omega
  | some stop =>
    have last := resolveEnd_le length stop
    simp only [resolveRange]
    omega

namespace Command

variable {m : Type → Type} [Monad m]

/-- Applies a command to a range of characters and keeps the text around it. -/
def onCharacters (start : Int) (stop : Option Int) (command : Command m) : Command m :=
  fun text => do
    let (first, last) := resolveRange start stop text.length
    let put ← command (Text.slice text first last)
    pure (Text.slice text 0 first ++ put ++ Text.slice text last text.length)

/-- Applies a command to a range of lines, joined by line feeds, and puts the lines of what it
gives between the lines around the range. -/
def onLines (start : Int) (stop : Option Int) (command : Command m) : Command m :=
  fun text => do
    let lines := Text.lines text
    let (first, last) := resolveRange start stop lines.length
    let put ← command (Text.unlines ((lines.drop first).take (last - first)))
    pure (Text.unlines (lines.take first ++ Text.lines put ++ lines.drop last))

/-- Gives a range of characters alone. -/
def narrowCharacters (start : Int) (stop : Option Int) : Command m :=
  fun text =>
    let (first, last) := resolveRange start stop text.length
    pure (Text.slice text first last)

/-- Gives a range of lines alone. -/
def narrowLines (start : Int) (stop : Option Int) : Command m :=
  fun text =>
    let lines := Text.lines text
    let (first, last) := resolveRange start stop lines.length
    pure (Text.unlines ((lines.drop first).take (last - first)))

end Command

end Structex
