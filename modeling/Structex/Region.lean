import Structex.Match

/-!
# Regions

A pattern cuts a text into regions: its matches, and what lies between them where that is not
empty. This is the decomposition that the commands over matches and gaps work on; here it is a
list, and replacing matches by what is made of their groups is defined beside it.
-/

namespace Structex

/-- Whether a region is a match or lies between matches. -/
inductive RegionKind where
  | matched
  | between
  deriving DecidableEq, Repr

/-- A region of a text. Only a match has groups. -/
structure Region where
  kind : RegionKind
  text : String
  start : Nat
  stop : Nat
  groups : Option (List (Option String))
  deriving DecidableEq, Repr

namespace Region

/-- The region between two offsets that no match takes. -/
def gap (text : String) (start stop : Nat) : Region :=
  ⟨.between, Text.slice text start stop, start, stop, none⟩

/-- The region that a match takes. -/
def ofMatch (found : Match) : Region :=
  ⟨.matched, found.text, found.start, found.stop, some found.groups⟩

/-- The regions from an offset on, given the matches after it. -/
def regionsFrom (text : String) : (last : Nat) → List Match → List Region
  | last, [] => if last < text.length then [gap text last text.length] else []
  | last, found :: rest =>
    (if last < found.start then [gap text last found.start] else []) ++
      ofMatch found :: regionsFrom text found.stop rest

end Region

namespace Regex.Pattern

/-- The regions of a text, in order. -/
def regions (pattern : Pattern) (text : String) : List Region :=
  Region.regionsFrom text 0 (pattern.findMatches text)

/-- The texts of all matches. -/
def extract (pattern : Pattern) (text : String) : List String :=
  (pattern.findMatches text).map (·.text)

/-- The groups of all matches, each match itself first. -/
def extractGroups (pattern : Pattern) (text : String) : List (List (Option String)) :=
  (pattern.findMatches text).map (·.groups)

/-- The text from an offset on with each match replaced by what a function makes of it. -/
def replaceFrom {m : Type → Type} [Monad m] (text : String) (replace : Match → m String) :
    (last : Nat) → List Match → m String
  | last, [] => pure (Text.slice text last text.length)
  | last, found :: rest => do
    let put ← replace found
    let tail ← replaceFrom text replace found.stop rest
    pure (Text.slice text last found.start ++ put ++ tail)

/-- The text with each match replaced by what is made of its text and its groups. -/
def transform {m : Type → Type} [Monad m] (pattern : Pattern)
    (build : String → List (Option String) → m String) (text : String) : m String :=
  replaceFrom text (fun found => build found.text found.groups) 0 (pattern.findMatches text)

end Regex.Pattern

end Structex
