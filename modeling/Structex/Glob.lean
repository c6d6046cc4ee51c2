import Structex.Regex.Search

/-!
# Globs over paths

A path is a sequence of segments between slashes, empty ones left out. A glob matches whole paths
segment by segment: a literal its own text, a single wildcard any one segment, a double wildcard
any run of segments. Besides the test there are the segments that the wildcards take, each double
wildcard the shortest run that lets the rest match, and a pattern that says the same on
characters.

The test works on rows, one for each rest of the glob: the row tells for every rest of the path
whether the two match. So its cost is the product of the two lengths however many double wildcards
there are.
-/

namespace Structex

/-- A segment of a glob. -/
inductive Segment where
  | literal (text : String)
  | single
  | double
  deriving DecidableEq, Repr

/-- The segments of a path. -/
def pathSegments (path : String) : List String :=
  (Text.split '/' path).filter fun segment => !segment.isEmpty

/-- A glob with its segments. -/
structure Glob where
  source : String
  segments : List Segment
  deriving DecidableEq, Repr, Inhabited

namespace Segment

/-- The segment that a part of a glob stands for. -/
def ofText (text : String) : Segment :=
  if text == "**" then .double
  else if text == "*" then .single
  else .literal text

/-- For every rest of a list, whether some rest of it from there on holds. -/
def orRest : List Bool → List Bool
  | [] => []
  | holds :: rest =>
    let later := orRest rest
    (holds || later.headD false) :: later

/-- The row before a segment from the row after it, for a path with these segments. -/
def row (segment : Segment) (path : List String) (after : List Bool) : List Bool :=
  match segment with
  | .literal text =>
    List.zipWith (fun part holds => part == text && holds) path after.tail ++ [false]
  | .single => after.tail ++ [false]
  | .double => orRest after

/-- For every rest of a path, the longest first, whether the segments match it. -/
def rowOf (path : List String) : List Segment → List Bool
  | [] => path.map (fun _ => false) ++ [true]
  | segment :: rest => segment.row path (rowOf path rest)

/-- Whether the segments match the whole of a path. -/
def matchAll (segments : List Segment) (path : List String) : Bool :=
  (rowOf path segments).headD false

/-- The length of the shortest run of a path that lets the segments match what is left of it, if
there is such a run. -/
def shortestRun? (segments : List Segment) : List String → Option Nat
  | [] => if matchAll segments [] then some 0 else none
  | part :: rest =>
    if matchAll segments (part :: rest) then some 0
    else (shortestRun? segments rest).map (· + 1)

/-- What the wildcards among the segments take of a path; nothing if one of them finds no run to
take. -/
def taken? : List Segment → List String → Option (List String)
  | [], _ => some []
  | .literal _ :: rest, path => taken? rest path.tail
  | .single :: _, [] => none
  | .single :: rest, part :: path => (taken? rest path).map (part :: ·)
  | .double :: rest, path => do
    let run ← shortestRun? rest path
    let others ← taken? rest (path.drop run)
    return path.take run ++ others

/-- Whether a character has a meaning of its own in a pattern. -/
def isSpecial (c : Char) : Bool :=
  "()[]\x7b\x7d?*+-|^$\\.&~# \t\n\r\x0b\x0c".toList.contains c

/-- A text as the source of a pattern that matches it alone. -/
def escaped (text : String) : String :=
  String.ofList (text.toList.flatMap fun c => if isSpecial c then ['\\', c] else [c])

/-- The source of a pattern for a segment with the slashes before it. -/
def patternSource : Segment → String
  | .literal text => "(?:^/*|/+)" ++ escaped text
  | .single => "(?:^/*|/+)[^/]+"
  | .double => "(?:(?:^/*|/+)[^/]+)*"

end Segment

namespace Glob

/-- The glob that a text writes. -/
def compile (source : String) : Glob :=
  ⟨source, (pathSegments source).map Segment.ofText⟩

/-- Whether the glob matches the whole of a path. -/
def isMatch (glob : Glob) (path : String) : Bool :=
  Segment.matchAll glob.segments (pathSegments path)

/-- The segments of a path that the wildcards take, if the glob matches it. -/
def captures? (glob : Glob) (path : String) : Option (List String) :=
  if glob.isMatch path then Segment.taken? glob.segments (pathSegments path) else none

/-- The source of a pattern for the paths that the glob matches. -/
def patternSource (glob : Glob) : String :=
  "^" ++ String.join (glob.segments.map Segment.patternSource) ++ "/*$"

/-- The pattern for the paths that the glob matches. -/
def toPattern (glob : Glob) : Except Regex.Fault Regex.Pattern :=
  Regex.Pattern.parse glob.patternSource {}

end Glob

/-- Whether a pattern matches at the start of a text. -/
def Regex.Pattern.matchesStart (pattern : Regex.Pattern) (text : String) : Bool :=
  (pattern.matchAt text.toList.toArray 0).isSome

end Structex
