import Structex.Text.Table.Alphabetic
import Structex.Text.Table.Alphanumeric
import Structex.Text.Table.CaseIgnorable
import Structex.Text.Table.Cased
import Structex.Text.Table.DecimalDigit
import Structex.Text.Table.IdentifierPart
import Structex.Text.Table.IdentifierStart
import Structex.Text.Table.Printable

/-!
# Character classes

The classes that patterns, numerals and quoted text ask for. Each answers for ASCII by a direct
test and looks only other characters up in a table, so that statements about ASCII text never
unfold one.
-/

namespace Structex.Text

/-- Whether the character belongs to ASCII. -/
def isAscii (c : Char) : Bool :=
  c.toNat < 128

/-- Letters of ASCII. -/
def isAsciiLetter (c : Char) : Bool :=
  ('a' ≤ c && c ≤ 'z') || ('A' ≤ c && c ≤ 'Z')

/-- Digits of ASCII. -/
def isAsciiDigit (c : Char) : Bool :=
  '0' ≤ c && c ≤ '9'

/-- Letters, digits and the underscore, of ASCII alone. -/
def isAsciiWord (c : Char) : Bool :=
  isAsciiLetter c || isAsciiDigit c || c == '_'

/-- The six blanks of ASCII that separate words: tab, line feed, vertical tab, form feed, carriage
return and space. -/
def isAsciiSpace (c : Char) : Bool :=
  (9 ≤ c.toNat && c.toNat ≤ 13) || c.toNat == 32

/-- Digits of base sixteen, in either case. -/
def isHexDigit (c : Char) : Bool :=
  isAsciiDigit c || ('a' ≤ c && c ≤ 'f') || ('A' ≤ c && c ≤ 'F')

/-- Digits of base eight. -/
def isOctalDigit (c : Char) : Bool :=
  '0' ≤ c && c ≤ '7'

/-- Decimal digits of any script. -/
def isDecimalDigit (c : Char) : Bool :=
  if isAscii c then isAsciiDigit c else decimalDigitRanges.covers c.toNat

/-- The number that a decimal digit of any script stands for. -/
def digitValue? (c : Char) : Option Nat :=
  if isAscii c then
    if isAsciiDigit c then some (c.toNat - 48) else none
  else
    (decimalDigitRanges.find? fun range => range.1 ≤ c.toNat && c.toNat ≤ range.2).map
      fun range => (c.toNat - range.1) % 10

/-- White space of any script, with the four separators of ASCII that stand below the space. -/
def isSpace (c : Char) : Bool :=
  isAsciiSpace c || (28 ≤ c.toNat && c.toNat ≤ 31) || c.toNat == 0x85 || c.toNat == 0xa0 ||
    c.toNat == 0x1680 || (0x2000 ≤ c.toNat && c.toNat ≤ 0x200a) || c.toNat == 0x2028 ||
    c.toNat == 0x2029 || c.toNat == 0x202f || c.toNat == 0x205f || c.toNat == 0x3000

/-- Characters with case, of any script, unless they are passed over by case. -/
def isCased (c : Char) : Bool :=
  if isAscii c then isAsciiLetter c else casedRanges.covers c.toNat

/-- Characters that are passed over when the case around a character is looked at. Of ASCII these
are the apostrophe, the full stop, the colon, and the two accents that stand alone. -/
def isCaseIgnorable (c : Char) : Bool :=
  if isAscii c then [39, 46, 58, 94, 96].contains c.toNat else caseIgnorableRanges.covers c.toNat

/-- Letters of any script. -/
def isLetter (c : Char) : Bool :=
  if isAscii c then isAsciiLetter c else alphabeticRanges.covers c.toNat

/-- Letters, digits and numerals of any script, and the underscore. -/
def isWord (c : Char) : Bool :=
  if isAscii c then isAsciiWord c else alphanumericRanges.covers c.toNat

/-- Characters that quoted text shows as they are. -/
def isPrintable (c : Char) : Bool :=
  if isAscii c then 32 ≤ c.toNat && c.toNat < 127 else printableRanges.covers c.toNat

/-- Characters that may start an identifier. -/
def isIdentifierStart (c : Char) : Bool :=
  if isAscii c then isAsciiLetter c || c == '_' else identifierStartRanges.covers c.toNat

/-- Characters that may follow in an identifier. -/
def isIdentifierPart (c : Char) : Bool :=
  if isAscii c then isAsciiWord c else identifierPartRanges.covers c.toNat

/-- A non-empty run of identifier characters that begins with one that may start it. -/
def isIdentifier : List Char → Bool
  | [] => false
  | first :: rest => isIdentifierStart first && rest.all isIdentifierPart

end Structex.Text
