/-!
# Commands

A command turns one text into another, in a context that it may read, change or fail in. Commands
are put one after another by `pipe`; the smallest ones keep the text, drop it, or put another in
its place.
-/

namespace Structex

/-- A function from text to text in a context. -/
abbrev Command (m : Type → Type) := String → m String

namespace Command

variable {m : Type → Type} [Monad m]

/-- Gives the text as it is. -/
def keep : Command m :=
  fun text => pure text

/-- Gives the empty text. -/
def delete : Command m :=
  fun _ => pure ""

/-- Gives one text whatever it is given. -/
def change (value : String) : Command m :=
  fun _ => pure value

/-- Applies commands from left to right, each to what the one before gives. -/
def pipe (commands : List (Command m)) : Command m :=
  fun text => commands.foldlM (fun current command => command current) text

@[simp] theorem pipe_nil : pipe ([] : List (Command m)) = keep := rfl

theorem pipe_cons [LawfulMonad m] (command : Command m) (rest : List (Command m)) :
    pipe (command :: rest) = fun text => command text >>= pipe rest := by
  funext text
  simp only [pipe, List.foldlM_cons]
  rfl

end Command

end Structex
