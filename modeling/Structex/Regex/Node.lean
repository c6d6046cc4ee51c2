import Structex.Text.Case
import Structex.Text.Class

/-!
# Pattern trees

What a pattern means, with all flags resolved: each set knows how it compares letters, each anchor
whether lines count. The tree says nothing about how a match is found.
-/

namespace Structex.Regex

/-- How letters are compared. -/
inductive Fold where
  | exact
  | ascii
  | unicode
  deriving DecidableEq, Repr, Inhabited

/-- The code points that a comparison takes for the given one. -/
def Fold.variants : Fold → Nat → List Nat
  | .exact, code => [code]
  | .ascii, code => Text.asciiCaseVariants code
  | .unicode, code => Text.caseVariants code

/-- The form in which two texts are compared by a back-reference. -/
def Fold.lower : Fold → Nat → Nat
  | .exact, code => code
  | .ascii, code => Text.lowerAscii code
  | .unicode, code => Text.lowerCode code

/-- The named classes of characters. -/
inductive CharClass where
  | digit
  | space
  | word
  deriving DecidableEq, Repr

/-- Whether a character is in a class, of ASCII alone or of all scripts. -/
def CharClass.holds (ascii : Bool) : CharClass → Char → Bool
  | .digit, c => if ascii then Text.isAsciiDigit c else Text.isDecimalDigit c
  | .space, c => if ascii then Text.isAsciiSpace c else Text.isSpace c
  | .word, c => if ascii then Text.isAsciiWord c else Text.isWord c

/-- A member of a character set. -/
inductive SetItem where
  | literal (code : Nat)
  | range (low high : Nat)
  | category (name : CharClass) (ascii negated : Bool)
  deriving DecidableEq, Repr

/-- Whether a member takes a character, given the code points that stand for it. -/
def SetItem.accepts (c : Char) (variants : List Nat) : SetItem → Bool
  | .literal code => variants.contains code
  | .range low high => variants.any fun variant => low ≤ variant && variant ≤ high
  | .category name ascii negated => name.holds ascii c != negated

/-- A test on one character: one of the members takes it, or none does for a negated set. -/
structure CharSet where
  negated : Bool
  fold : Fold
  items : List SetItem
  deriving DecidableEq, Repr, Inhabited

/-- Whether the set takes the character. -/
def CharSet.accepts (set : CharSet) (c : Char) : Bool :=
  (set.items.any (·.accepts c (set.fold.variants c.toNat))) != set.negated

/-- A place between characters. -/
inductive Anchor where
  | textStart
  | lineStart
  | textEnd
  /-- The end of the text or just before a line feed that ends it. -/
  | lastLineEnd
  | lineEnd
  | boundary (ascii negated : Bool)
  deriving DecidableEq, Repr

/-- In which order the counts of a repetition are tried. -/
inductive Greed where
  | greedy
  | lazy
  /-- Greedy, and never reconsidered. -/
  | possessive
  deriving DecidableEq, Repr

/-- The least and the greatest number of characters that a part can take. -/
structure Width where
  least : Nat
  most : Nat
  deriving DecidableEq, Repr, Inhabited

/-- A pattern with its flags resolved. -/
inductive Node where
  | empty
  | one (set : CharSet)
  | seq (first second : Node)
  | choice (first second : Node)
  | iterate (greed : Greed) (least : Nat) (most : Option Nat) (body : Node)
  | group (index : Nat) (body : Node)
  | reference (index : Nat) (fold : Fold)
  | condition (index : Nat) (present absent : Node)
  | look (ahead negated : Bool) (width : Width) (body : Node)
  | atomic (body : Node)
  | assertion (anchor : Anchor)
  deriving DecidableEq, Repr, Inhabited

end Structex.Regex
