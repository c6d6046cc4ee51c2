import Structex.Command.Basic
import Structex.Decimal.Numeral
import Structex.Region

/-!
# Substitution

Texts that are put in place of matches, with references to what was matched: `$1` to a group,
`$<name>` to a group by its name, `$&` to the match, the dollar sign with a grave accent or a
single quote to the text before or after it, and `$$` for a dollar sign. A dollar sign that starts
none of these stands for itself.
-/

namespace Structex

/-- A part of a replacement. -/
inductive Piece where
  | literal (text : String)
  | group (index : Nat)
  /-- A group by its name; a name that no group has gives nothing. -/
  | named (name : String)
  | whole
  | before
  | after
  deriving DecidableEq, Repr

namespace Piece

/-- The piece that is one character. -/
def char (c : Char) : Piece :=
  .literal (String.ofList [c])

/-- Reads a replacement for a pattern with so many groups, some of them named or not. While the
name of a group is read, `name` holds what has been read of it, last character first. -/
def readFrom (groups : Nat) (hasNames : Bool) : (name : Option (List Char)) → List Char →
    List Piece
  | _, [] => []
  | some taken, c :: rest =>
    if c == '>' then .named (String.ofList taken.reverse) :: readFrom groups hasNames none rest
    else readFrom groups hasNames (some (c :: taken)) rest
  | none, [c] => [char c]
  | none, c :: next :: rest =>
    if c != '$' then char c :: readFrom groups hasNames none (next :: rest)
    else if next == '$' then char '$' :: readFrom groups hasNames none rest
    else if next == '&' then .whole :: readFrom groups hasNames none rest
    else if next == '\x60' then .before :: readFrom groups hasNames none rest
    else if next == '\'' then .after :: readFrom groups hasNames none rest
    else if Text.isAsciiDigit next then
      let one := Decimal.digitOf next
      match rest with
      | [] =>
        if 1 ≤ one && one ≤ groups then [.group one] else [char '$', char next]
      | second :: tail =>
        let two := 10 * one + Decimal.digitOf second
        if Text.isAsciiDigit second && 1 ≤ two && two ≤ groups then
          .group two :: readFrom groups hasNames none tail
        else if 1 ≤ one && one ≤ groups then
          .group one :: readFrom groups hasNames none (second :: tail)
        else
          char '$' :: readFrom groups hasNames none (next :: second :: tail)
    else if next == '<' && hasNames && rest.contains '>' then
      readFrom groups hasNames (some []) rest
    else
      char '$' :: readFrom groups hasNames none (next :: rest)

/-- The pieces of a replacement for a pattern. -/
def read (pattern : Regex.Pattern) (replacement : String) : List Piece :=
  readFrom pattern.groups (!pattern.names.isEmpty) none replacement.toList

/-- What a piece puts in place of a match in a text. -/
def render (pattern : Regex.Pattern) (text : String) (found : Match) : Piece → String
  | .literal content => content
  | .group index => (found.group? index).getD ""
  | .named name =>
    match pattern.names.lookup name with
    | some index => (found.group? index).getD ""
    | none => ""
  | .whole => found.text
  | .before => Text.slice text 0 found.start
  | .after => Text.slice text found.stop text.length

/-- What pieces put in place of a match in a text. -/
def renderAll (pattern : Regex.Pattern) (text : String) (found : Match) (pieces : List Piece) :
    String :=
  pieces.foldr (fun piece rest => render pattern text found piece ++ rest) ""

end Piece

namespace Command

variable {m : Type → Type} [Monad m]

/-- Puts what a function makes of each match in its place. -/
def substituteWith (pattern : Regex.Pattern) (replace : Match → m String) : Command m :=
  fun text => Regex.Pattern.replaceFrom text replace 0 (pattern.scanMatches text)

/-- Puts a replacement in place of each match. -/
def substitute (pattern : Regex.Pattern) (replacement : String) : Command m :=
  let pieces := Piece.read pattern replacement
  fun text =>
    Regex.Pattern.replaceFrom text
      (fun found => pure (Piece.renderAll pattern text found pieces)) 0
      (pattern.scanMatches text)

end Command

end Structex
