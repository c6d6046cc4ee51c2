import Structex.Regex.Grammar
import Structex.Regex.Matching
import Structex.Text.Split

/-!
# Searching

The leftmost match of a pattern at or after an offset, with the whole text in view, and the scan
that substitution and cutting are made of: after an empty match it next tries for one that is not
empty at the same offset before it moves on.
-/

namespace Structex.Regex

/-- A match: where it begins and ends, and the spans of the groups that took part. -/
structure Found where
  start : Nat
  stop : Nat
  captures : Captures
  deriving DecidableEq, Repr

/-- The span of a group of a match; group zero is the match itself. -/
def Found.span? (found : Found) (group : Nat) : Option (Nat × Nat) :=
  if group == 0 then some (found.start, found.stop) else found.captures.span? group

namespace Pattern

/-- The match at exactly this offset that an ordered choice takes, if what is reached is wanted. -/
def matchAtWhere (pattern : Pattern) (subject : Array Char) (wanted : Place → Bool)
    (position : Nat) : Option Found :=
  (pattern.node.run subject ⟨position, []⟩ fun reached =>
      if wanted reached then some reached else none).map
    fun reached => ⟨position, reached.position, reached.captures⟩

/-- The match at exactly this offset. -/
def matchAt (pattern : Pattern) (subject : Array Char) (position : Nat) : Option Found :=
  pattern.matchAtWhere subject (fun _ => true) position

/-- The first match at one of the next so many offsets. -/
def searchNext (pattern : Pattern) (subject : Array Char) : (tries position : Nat) → Option Found
  | 0, _ => none
  | tries + 1, position =>
    (pattern.matchAt subject position).or (pattern.searchNext subject tries (position + 1))

/-- The leftmost match at or after an offset. -/
def search (pattern : Pattern) (subject : Array Char) (position : Nat) : Option Found :=
  pattern.searchNext subject (subject.size + 1 - position) position

/-- The leftmost match at or after an offset, which at the offset itself must not be empty. -/
def searchAdvancing (pattern : Pattern) (subject : Array Char) (position : Nat) : Option Found :=
  (pattern.matchAtWhere subject (·.position != position) position).or
    (pattern.search subject (position + 1))

/-- The matches of the scan for substitution from an offset on; `advance` tells that the match
before ended there and was empty. -/
def scanFrom (pattern : Pattern) (subject : Array Char) : (fuel : Nat) → (position : Nat) →
    (advance : Bool) → List Found
  | 0, _, _ => []
  | fuel + 1, position, advance =>
    match (if advance then pattern.searchAdvancing subject position
      else pattern.search subject position) with
    | none => []
    | some found =>
      found :: pattern.scanFrom subject fuel found.stop (found.start == found.stop)

/-- All matches of the scan for substitution. -/
def scan (pattern : Pattern) (subject : Array Char) : List Found :=
  pattern.scanFrom subject (2 * subject.size + 2) 0 false

end Pattern

end Structex.Regex
