import Structex.Value.Shared

/-!
# Readers

What makes values of the texts of files. A reader is handed over by the program that uses the
library; of its faults only those of form are told apart from all others.
-/

namespace Structex

/-- Why a reader makes nothing of a text. -/
inductive ReadFault where
  /-- The text has not the form that the reader asks for. -/
  | form
  /-- Reading breaks off with an error of another name. -/
  | other (errorName : String)
  deriving DecidableEq, Repr

/-- What a text is read as. -/
abbrev TextReader := String → Except ReadFault Shared

end Structex
