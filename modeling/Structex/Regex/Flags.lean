/-!
# Flags

The switches that change how a pattern is read and matched. A pattern has flags of its own, given
from outside or at its very start, and a group may switch some of them for its contents.
-/

namespace Structex.Regex

/-- The switches of a pattern or of a part of it. -/
structure Flags where
  ignoreCase : Bool := false
  multiline : Bool := false
  dotAll : Bool := false
  verbose : Bool := false
  ascii : Bool := false
  unicode : Bool := false
  /-- Forbids repetition; kept only because a pattern may ask for it. -/
  plain : Bool := false
  deriving DecidableEq, Repr, Inhabited

namespace Flags

/-- The flag that a letter stands for. -/
def ofLetter? : Char → Option Flags
  | 'i' => some { ignoreCase := true }
  | 'm' => some { multiline := true }
  | 's' => some { dotAll := true }
  | 'x' => some { verbose := true }
  | 'a' => some { ascii := true }
  | 'u' => some { unicode := true }
  | 't' => some { plain := true }
  | _ => none

/-- The flags that are on in either. -/
def union (left right : Flags) : Flags where
  ignoreCase := left.ignoreCase || right.ignoreCase
  multiline := left.multiline || right.multiline
  dotAll := left.dotAll || right.dotAll
  verbose := left.verbose || right.verbose
  ascii := left.ascii || right.ascii
  unicode := left.unicode || right.unicode
  plain := left.plain || right.plain

/-- The flags of the first that are off in the second. -/
def without (left right : Flags) : Flags where
  ignoreCase := left.ignoreCase && !right.ignoreCase
  multiline := left.multiline && !right.multiline
  dotAll := left.dotAll && !right.dotAll
  verbose := left.verbose && !right.verbose
  ascii := left.ascii && !right.ascii
  unicode := left.unicode && !right.unicode
  plain := left.plain && !right.plain

/-- Whether some flag is on in both. -/
def meets (left right : Flags) : Bool :=
  left.ignoreCase && right.ignoreCase || left.multiline && right.multiline ||
  left.dotAll && right.dotAll || left.verbose && right.verbose || left.ascii && right.ascii ||
  left.unicode && right.unicode || left.plain && right.plain

/-- Whether the flags choose a character repertoire. -/
def choosesRepertoire (flags : Flags) : Bool :=
  flags.ascii || flags.unicode

/-- The flags inside a group that switches some on and some off. Choosing a repertoire replaces
the choice made outside. -/
def switched (flags on off : Flags) : Flags :=
  let kept :=
    if on.choosesRepertoire then { flags with ascii := false, unicode := false } else flags
  (kept.union on).without off

/-- The flags given by letters; other characters are passed over. -/
def ofLetters (letters : String) : Flags :=
  letters.toList.foldl (fun flags c => flags.union ((ofLetter? c).getD {})) {}

/-- The flags as one number, a power of two for each. -/
def code (flags : Flags) : Nat :=
  (if flags.plain then 1 else 0) + (if flags.ignoreCase then 2 else 0) +
  (if flags.multiline then 8 else 0) + (if flags.dotAll then 16 else 0) +
  (if flags.unicode then 32 else 0) + (if flags.verbose then 64 else 0) +
  (if flags.ascii then 256 else 0)

end Flags

end Structex.Regex
