import Structex.Text.Class
import Structex.Text.Table.Case

/-!
# Case folding

Simple lower case, and the set of characters that a comparison without regard to case puts
together. Two characters are variants of each other when their lower-case forms are the same or
are different lower-case letters of one upper case, such as the Greek sigmas.
-/

namespace Structex.Text

/-- Lower case of a letter of ASCII; any other character is kept. -/
def lowerAscii (code : Nat) : Nat :=
  if 65 ≤ code && code ≤ 90 then code + 32 else code

/-- Where the run maps the code point, if it holds it. -/
def CaseRun.lower? (run : CaseRun) (code : Nat) : Option Nat :=
  if run.first ≤ code && code ≤ run.last && (code - run.first) % run.step == 0 then
    some (run.lowered + (code - run.first))
  else
    none

/-- The code point that the run maps to the given one, if there is one. -/
def CaseRun.raise? (run : CaseRun) (code : Nat) : Option Nat :=
  if run.lowered ≤ code && code - run.lowered ≤ run.last - run.first &&
      (code - run.lowered) % run.step == 0 then
    some (run.first + (code - run.lowered))
  else
    none

/-- Simple lower case of a code point. -/
def lowerCode (code : Nat) : Nat :=
  if code < 128 then lowerAscii code else (lowerRuns.findSome? (·.lower? code)).getD code

/-- Whether the first character that is not passed over by case has case. -/
def meetsCased : List Char → Bool
  | [] => false
  | c :: rest => if isCaseIgnorable c then meetsCased rest else isCased c

/-- A text in lower case, behind a character with case or not. The dotted capital letter becomes
two characters, and a sigma at the end of a word has a form of its own. -/
def lowerBehind (cased : Bool) : List Char → List Char
  | [] => []
  | c :: rest =>
    (if c == '\u0130' then ['i', '\u0307']
      else if c == '\u03a3' && cased && !meetsCased rest then ['\u03c2']
      else [Char.ofNat (lowerCode c.toNat)]) ++
      lowerBehind (if isCaseIgnorable c then cased else isCased c) rest

/-- A text in lower case. -/
def lowerText (text : List Char) : List Char :=
  lowerBehind false text

/-- The lower-case code points that share an upper case with the given one, itself included. -/
def sharedUpper (code : Nat) : List Nat :=
  if code < 128 && code != 105 && code != 115 then [code]
  else (sharedUpperClasses.find? (·.contains code)).getD [code]

/-- All code points whose simple lower case is the given one, itself excluded unless it is its own
lower case. -/
def raisedCodes (code : Nat) : List Nat :=
  (if lowerCode code == code then [code] else []) ++
  (if 97 ≤ code && code ≤ 122 then [code - 32] else []) ++
  lowerRuns.filterMap (·.raise? code)

/-- All code points that a comparison without regard to case takes for the given one. -/
def caseVariants (code : Nat) : List Nat :=
  (sharedUpper (lowerCode code)).flatMap raisedCodes

/-- The code points of ASCII that a comparison without regard to case takes for the given one. -/
def asciiCaseVariants (code : Nat) : List Nat :=
  if 65 ≤ code && code ≤ 90 then [code, code + 32]
  else if 97 ≤ code && code ≤ 122 then [code - 32, code]
  else [code]

end Structex.Text
