import Structex.Regex.Search
import Structex.Value.Basic

/-!
# Matches

The matches of a pattern in a text that all commands are built on: found from left to right, each
search resuming where the match before ended, one character further after an empty match. A match
records its text, its offsets and what its groups took.
-/

namespace Structex

/-- A match of a pattern: its text, where it begins and ends, and the texts of the groups, the
match itself first; a group that took no part has none. -/
structure Match where
  text : String
  start : Nat
  stop : Nat
  groups : List (Option String)
  deriving DecidableEq, Repr

namespace Match

/-- How many characters the match has. -/
def length (found : Match) : Nat :=
  found.stop - found.start

/-- The match that a search has found in a text. -/
def ofFound (pattern : Regex.Pattern) (text : String) (found : Regex.Found) : Match where
  text := Text.slice text found.start found.stop
  start := found.start
  stop := found.stop
  groups := (List.range (pattern.groups + 1)).map fun group =>
    (found.span? group).map fun span => Text.slice text span.1 span.2

/-- The text that a group took, if it took part. -/
def group? (found : Match) (group : Nat) : Option String :=
  (found.groups[group]?).join

/-- The texts of all groups but the match itself, empty for those that took no part. -/
def captured (found : Match) : List String :=
  found.groups.tail.map (·.getD "")

end Match

namespace Regex.Pattern

/-- Where the search resumes after a match: at its end, or one character further if it is
empty. -/
def resumeAfter (found : Found) : Nat :=
  if found.stop = found.start then found.start + 1 else found.stop

/-- The matches at or after an offset, as long as the fuel lasts. -/
def foundFrom (pattern : Pattern) (subject : Array Char) : (fuel position : Nat) → List Found
  | 0, _ => []
  | fuel + 1, position =>
    match pattern.search subject position with
    | none => []
    | some found => found :: pattern.foundFrom subject fuel (resumeAfter found)

/-- All matches in a text. There is at most one for each offset and one at the end. -/
def foundIn (pattern : Pattern) (text : String) : List Found :=
  let subject := text.toList.toArray
  pattern.foundFrom subject (subject.size + 2) 0

/-- All matches in a text, from left to right. -/
def findMatches (pattern : Pattern) (text : String) : List Match :=
  (pattern.foundIn text).map (Match.ofFound pattern text)

/-- The leftmost match in a text. -/
def firstMatch? (pattern : Pattern) (text : String) : Option Match :=
  (pattern.search text.toList.toArray 0).map (Match.ofFound pattern text)

/-- Whether the pattern matches anywhere in a text. -/
def containsMatch (pattern : Pattern) (text : String) : Bool :=
  (pattern.search text.toList.toArray 0).isSome

/-- The matches that substitution and cutting see. -/
def scanMatches (pattern : Pattern) (text : String) : List Match :=
  (pattern.scan text.toList.toArray).map (Match.ofFound pattern text)

/-- The groups of the first match as texts, the match itself first; nothing without a match. -/
def firstGroups (pattern : Pattern) (text : String) : List String :=
  match pattern.firstMatch? text with
  | some found => found.text :: found.captured
  | none => []

/-- The pieces of a text between the matches, each match's groups between them. -/
def cutFrom (text : String) : (last : Nat) → List Match → List (Option String)
  | last, [] => [some (Text.slice text last text.length)]
  | last, found :: rest =>
    some (Text.slice text last found.start) :: found.groups.tail ++ cutFrom text found.stop rest

/-- A text cut at the matches of a pattern. -/
def cut (pattern : Pattern) (text : String) : List (Option String) :=
  cutFrom text 0 (pattern.scanMatches text)

end Regex.Pattern

end Structex
