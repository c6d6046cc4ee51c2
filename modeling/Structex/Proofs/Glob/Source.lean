import Structex.Glob
import Structex.Proofs.Regex.Parts

/-!
# What the pattern of a glob is read as

The source of a glob's pattern is put together segment by segment. It is always accepted, and its
tree is put together in the same way: a literal is a sequence of characters, whatever characters
it has, and each kind of wildcard has a tree of its own.
-/

namespace Structex

open Regex Regex.Reader

namespace Segment

/-- The slashes before a segment: any number at the start of the path, else at least one. -/
def gapNode : Node :=
  .choice (.seq (.assertion .textStart) (.iterate .greedy 0 none (.one (.only '/'))))
    (.iterate .greedy 1 none (.one (.only '/')))

/-- Any segment of a path. -/
def nameNode : Node :=
  .iterate .greedy 1 none (.one (.allBut '/'))

/-- The nodes of a segment. -/
def nodes : Segment → List Node
  | .literal text => gapNode :: text.toList.map fun c => .one (.only c)
  | .single => [gapNode, nameNode]
  | .double => [.iterate .greedy 0 none (.seq gapNode nameNode)]

/-- The characters with a meaning of their own. -/
theorem isSpecial_iff {c : Char} :
    isSpecial c = true ↔ c ∈ ['(', ')', '[', ']', '\x7b', '\x7d', '?', '*', '+', '-', '|', '^', '$',
      '\\', '.', '&', '~', '#', ' ', '\t', '\n', '\r', '\x0b', '\x0c'] := by
  simp [isSpecial]

/-- A character with a meaning of its own is itself behind a backslash. -/
theorem escapePiece_special {c : Char} (special : isSpecial c = true) :
    escapePiece {} c = pure (Regex.Piece.literal {} c.toNat) := by
  have listed := isSpecial_iff.mp special
  simp only [List.mem_cons, List.not_mem_nil, or_false] at listed
  rcases listed with rfl | rfl | rfl | rfl | rfl | rfl | rfl | rfl | rfl | rfl | rfl | rfl | rfl |
    rfl | rfl | rfl | rfl | rfl | rfl | rfl | rfl | rfl | rfl | rfl <;> rfl

/-- A character that is not escaped is itself. -/
theorem isOrdinary_of_not_special {c : Char} (plain : ¬ isSpecial c = true) :
    isOrdinary c = true := by
  rw [isSpecial_iff] at plain
  simp only [List.mem_cons, List.not_mem_nil, or_false, not_or] at plain
  simp [isOrdinary, plain]

/-- An escaped text stands for its characters. -/
theorem reads_escaped (text : String) :
    Reads (escaped text).toList (text.toList.map fun c => .one (.only c)) := by
  rw [escaped, String.toList_ofList]
  induction text.toList with
  | nil => exact .nil
  | cons c rest inductionHypothesis =>
      rw [List.flatMap_cons, List.map_cons]
      by_cases special : isSpecial c = true
      · rw [if_pos special]
        exact (ReadsPart.escaped (escapePiece_special special)).reads_one.append
          inductionHypothesis
      · rw [if_neg special]
        exact (ReadsPart.ordinary (isOrdinary_of_not_special special)).reads_one.append
          inductionHypothesis

/-- Any number of slashes. -/
theorem reads_slashes : Reads ['/', '*'] [.iterate .greedy 0 none (.one (.only '/'))] :=
  ReadsPart.repeated (.ordinary (by decide)) (.inl rfl)

/-- The slashes before a segment. -/
theorem readsPart_gap : ReadsPart "(?:^/*|/+)".toList gapNode := by
  have start : Reads ['^'] [.assertion .textStart] :=
    .anchor (by decide) (by decide) fun _ => rfl
  have slash : Reads ['/', '+'] [.iterate .greedy 1 none (.one (.only '/'))] :=
    ReadsPart.repeated (.ordinary (by decide)) (.inr rfl)
  exact ((start.append reads_slashes).bar slash.branches).group

/-- Any segment of a path. -/
theorem reads_name : Reads "[^/]+".toList [nameNode] :=
  ReadsPart.repeated (.allBut (by decide)) (.inr rfl)

/-- The source of a segment stands for its nodes. -/
theorem reads_patternSource (segment : Segment) :
    Reads segment.patternSource.toList segment.nodes := by
  cases segment with
  | literal text =>
      rw [patternSource, String.toList_append]
      exact readsPart_gap.reads_one.append (reads_escaped text)
  | single => exact readsPart_gap.reads_one.append reads_name
  | double =>
      have segment : ReadsPart "(?:(?:^/*|/+)[^/]+)".toList (.seq gapNode nameNode) :=
        (readsPart_gap.reads_one.append reads_name).branches.group
      exact segment.repeated (.inl rfl)

/-- The sources of segments stand for the nodes of all of them. -/
theorem reads_join (segments : List Segment) :
    Reads (String.join (segments.map patternSource)).toList (segments.flatMap nodes) := by
  induction segments with
  | nil => exact .nil
  | cons segment rest inductionHypothesis =>
      rw [List.map_cons, String.join_cons, String.toList_append, List.flatMap_cons]
      exact (reads_patternSource segment).append inductionHypothesis

/-- Nothing in a segment is refused. -/
theorem firstCause_nodes (segment : Segment) :
    ∀ node ∈ segment.nodes, node.firstCause false = none := by
  intro node member
  cases segment with
  | literal text =>
      rcases List.mem_cons.mp member with rfl | later
      · rfl
      · obtain ⟨c, -, rfl⟩ := List.mem_map.mp later
        rfl
  | single =>
      simp only [nodes, List.mem_cons, List.not_mem_nil, or_false] at member
      rcases member with rfl | rfl <;> rfl
  | double =>
      cases List.mem_singleton.mp member
      rfl

end Segment

/-- Nodes in order are not refused if none of them is. -/
theorem Regex.Node.firstCause_join {plain : Bool} {nodes : List Node}
    (sound : ∀ node ∈ nodes, node.firstCause plain = none) :
    (join nodes).firstCause plain = none := by
  induction nodes with
  | nil => rfl
  | cons node rest inductionHypothesis =>
      have first := sound node List.mem_cons_self
      have others := inductionHypothesis fun other member =>
        sound other (List.mem_cons_of_mem node member)
      cases rest with
      | nil => exact first
      | cons second rest => rw [join, firstCause, first, others]; rfl

namespace Glob

/-- What the pattern of a glob ends with: any number of slashes up to the end of the path. -/
def endNodes : List Node :=
  [.iterate .greedy 0 none (.one (.only '/')), .assertion .lastLineEnd]

/-- The tree of a glob's pattern. -/
def node (glob : Glob) : Node :=
  Node.join (.assertion .textStart :: (glob.segments.flatMap Segment.nodes ++ endNodes))

/-- The pattern that a glob's source is read as. -/
def pattern (glob : Glob) : Pattern where
  source := glob.patternSource
  flags := { unicode := true }
  groups := 0
  names := []
  node := glob.node

/-- The source of a glob's pattern stands for its tree. -/
theorem readsBranches_patternSource (glob : Glob) :
    ReadsBranches glob.patternSource.toList glob.node := by
  have start : Reads "^".toList [.assertion .textStart] :=
    .anchor (by decide) (by decide) fun _ => rfl
  have last : Reads ['$'] [.assertion .lastLineEnd] :=
    .anchor (by decide) (by decide) fun _ => rfl
  have ends : Reads "/*$".toList endNodes := Segment.reads_slashes.append last
  rw [patternSource, String.toList_append, String.toList_append]
  have reads := (start.append (Segment.reads_join glob.segments)).append ends
  rw [List.append_assoc] at reads
  exact reads.branches

/-- The source of a glob's pattern is always accepted. -/
theorem toPattern_eq_ok (glob : Glob) : glob.toPattern = .ok glob.pattern := by
  have first : firstToken glob.patternSource.toList = some (.plain '^') := by
    rw [patternSource, String.toList_append, String.toList_append]
    exact firstToken_cons (by decide) _
  have sound : glob.node.firstCause false = none := by
    refine Node.firstCause_join fun node member => ?_
    rcases List.mem_cons.mp member with rfl | later
    · rfl
    · rcases List.mem_append.mp later with inSegments | atEnd
      · obtain ⟨segment, -, inSegment⟩ := List.mem_flatMap.mp inSegments
        exact segment.firstCause_nodes node inSegment
      · simp only [endNodes, List.mem_cons, List.not_mem_nil, or_false] at atEnd
        rcases atEnd with rfl | rfl <;> rfl
  exact glob.readsBranches_patternSource.parse (by rw [first]; decide) sound

end Glob

end Structex
