import Structex.Value.Reader

/-!
# Faults of YAML texts

Why no value comes of a text. Most faults are faults of form. Two are not: a scalar can have the
form of a number or a time without there being such a number or time, and an escape can ask for a
character that does not exist.
-/

namespace Structex.Yaml

/-- Why no value comes of a text. -/
inductive Fault where
  /-- A character that may not stand in a text. -/
  | character
  /-- A sign where it cannot stand. -/
  | misplaced
  /-- A line that starts like a key of the mapping around it goes on without a colon. -/
  | missingColon
  /-- The text ends, or a document does, inside quotes. -/
  | unclosedQuote
  | escape
  /-- What follows the sign of a block of text. -/
  | blockHeader
  | anchorName
  | tagName
  | directive
  | severalDocuments
  | undefinedAlias (name : String)
  | repeatedAnchor (name : String)
  /-- An alias inside what it stands for. -/
  | selfReference (name : String)
  | unknownTag
  | notMergeable
  | changingKey
  /-- A scalar of the form of a number or a time that has no value. -/
  | noSuchValue
  /-- An escape of a number beyond all characters, and whether it takes more than 31 bits. -/
  | noSuchCharacter (wide : Bool)
  deriving DecidableEq, Repr

/-- The fault as that of a reader: one of form, or a value or a character that does not exist. -/
def Fault.ofReading : Fault → ReadFault
  | .noSuchValue => .other "ValueError"
  | .noSuchCharacter wide => .other (if wide then "OverflowError" else "ValueError")
  | _ => .form

end Structex.Yaml
