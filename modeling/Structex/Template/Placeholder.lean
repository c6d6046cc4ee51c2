import Structex.Decimal.Numeral
import Structex.Text.Split

/-!
# Placeholders

A template is a text with placeholders between `$` with braces: a number for a group of a match,
`path.` and a number for a segment of a path, `uuid` for a fresh identifier, `input` for the text
at hand, and `data.` with a dotted path into a payload. What is not a whole placeholder is literal
text. Reading is one pass, and a placeholder keeps the text it was written as.
-/

namespace Structex

/-- What a placeholder asks for. Numbers are kept as their digits. -/
inductive Placeholder where
  | capture (digits : List Char)
  | path (digits : List Char)
  | identifier
  | input
  | data (path : List Char)
  deriving DecidableEq, Repr

/-- A part of a template. -/
inductive TemplatePart where
  | literal (c : Char)
  /-- A placeholder and the text that it was written as. -/
  | hole (placeholder : Placeholder) (source : List Char)
  deriving DecidableEq, Repr

namespace Placeholder

/-- Whether a character may stand in the path into a payload. -/
def isDataChar (c : Char) : Bool :=
  Text.isAsciiLetter c || Text.isAsciiDigit c || c == '_' || c == '.'

/-- The text after some first characters, if it starts with them. -/
def after? : (start : List Char) → List Char → Option (List Char)
  | [], text => some text
  | c :: start, d :: text => if c == d then after? start text else none
  | _ :: _, [] => none

/-- A run of characters of a class that is not empty and that a closing brace follows, with its
length and that of the brace. -/
def closedRun? (holds : Char → Bool) (text : List Char) : Option (List Char × Nat) :=
  let run := text.takeWhile holds
  match run, text.dropWhile holds with
  | _ :: _, '\x7d' :: _ => some (run, run.length + 1)
  | _, _ => none

/-- A placeholder whose opening has been read, with the number of characters it goes on for. -/
def body? (text : List Char) : Option (Placeholder × Nat) :=
  match closedRun? Text.isDecimalDigit text with
  | some (digits, length) => some (.capture digits, length)
  | none =>
    match after? "path.".toList text with
    | some rest => (closedRun? Text.isDecimalDigit rest).map fun run => (.path run.1, 5 + run.2)
    | none =>
      if (after? "uuid\x7d".toList text).isSome then some (.identifier, 5)
      else if (after? "input\x7d".toList text).isSome then some (.input, 6)
      else
        match after? "data.".toList text with
        | some rest => (closedRun? isDataChar rest).map fun run => (.data run.1, 5 + run.2)
        | none => none

/-- The placeholder that a text starts with, and how many characters it has. -/
def start? : List Char → Option (Placeholder × Nat)
  | '$' :: '\x7b' :: rest => (body? rest).map fun found => (found.1, found.2 + 2)
  | _ => none

end Placeholder

namespace TemplatePart

/-- Reads a template; `skip` characters belong to the placeholder read last. -/
def readFrom : (skip : Nat) → List Char → List TemplatePart
  | _, [] => []
  | skip + 1, _ :: rest => readFrom skip rest
  | 0, c :: rest =>
    match Placeholder.start? (c :: rest) with
    | some (placeholder, length) =>
      .hole placeholder ((c :: rest).take length) :: readFrom (length - 1) rest
    | none => .literal c :: readFrom 0 rest

/-- The parts of a template. -/
def read (template : String) : List TemplatePart :=
  readFrom 0 template.toList

end TemplatePart

/-- The pattern that a placeholder matches, as its source. -/
def placeholderSource : String :=
  "\\$\\\x7b(?:(?P<capture>\\d+)|path\\.(?P<path>\\d+)|(?P<uuid>uuid)|(?P<input>input)|" ++
    "data\\.(?P<data>[A-Za-z0-9_.]+))\\\x7d"

end Structex
