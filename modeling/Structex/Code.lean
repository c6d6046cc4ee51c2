/-!
# Codes of outcome

The version of the library, and the codes that tell a caller what kind of thing went wrong.
-/

namespace Structex

/-- The version of the library. -/
def version : String := "1.0.0"

/-- The version of what the library promises its callers. -/
def interfaceVersion : Nat := 1

/-- What kind of thing went wrong, if anything did. -/
inductive Code where
  | success
  /-- A pattern, a rule or a token definition is malformed. -/
  | invalidInput
  /-- A file or a rule is missing. -/
  | notFound
  /-- Definitions do not go together. -/
  | conflict
  | internalError
  deriving DecidableEq, Repr

namespace Code

/-- The codes in order. -/
def all : List Code := [.success, .invalidInput, .notFound, .conflict, .internalError]

/-- The number of a code. -/
def number : Code → Nat
  | .success => 0
  | .invalidInput => 1
  | .notFound => 2
  | .conflict => 4
  | .internalError => 6

/-- The name of a code. -/
def name : Code → String
  | .success => "SUCCESS"
  | .invalidInput => "INVALID_INPUT"
  | .notFound => "NOT_FOUND"
  | .conflict => "CONFLICT"
  | .internalError => "INTERNAL_ERROR"

end Code

end Structex
