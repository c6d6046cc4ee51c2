import Structex.Proofs.Glob.Agreement

/-!
# Paths that a line feed ends

The pattern of a glob ends with a sign that also holds just before a line feed at the end of the
text. So of a path that a line feed ends, the pattern can take all, or all but the line feed. Each
of the two agrees with the segments: the pattern matches the path exactly if the glob matches it
with the line feed or without.
-/

namespace Structex

open Regex

namespace Segment

variable {front : List Char}

/-- Only the end of a text is where nothing is left. -/
theorem textEnd_holds (chars : List Char) : EndsOnce .textEnd chars := by
  intro position
  rw [Anchor.holds, List.size_toArray, beq_iff_eq]

/-- The last line of a text that a line feed ends is at its end, and before the line feed. -/
theorem lastLineEnd_holds_lineFeed (position : Nat) :
    Anchor.lastLineEnd.holds (front ++ ['\n']).toArray position = true ↔
      position = (front ++ ['\n']).length ∨ position = front.length := by
  simp only [Anchor.holds, lineFeedAt, List.size_toArray, List.getElem?_toArray,
    List.length_append, List.length_singleton, Bool.or_eq_true, Bool.and_eq_true, beq_iff_eq]
  refine or_congr_right ⟨fun last => Nat.succ.inj last.1, ?_⟩
  rintro rfl
  exact ⟨rfl, List.getElem?_concat_length⟩

/-- What the nodes of segments take before the end of the path. -/
def bodyNode (segments : List Segment) : Node :=
  Node.join (segments.flatMap nodes ++ [.iterate .greedy 0 none (.one (.only '/'))])

/-- A path is accepted if it can be taken up to a place that counts as its end. -/
theorem accepts_iff {anchor : Anchor} {chars : List Char} {segments : List Segment}
    {position : Nat} :
    Accepts anchor chars segments position ↔
      ∃ stop, (bodyNode segments).Reaches chars.toArray position stop ∧
        anchor.holds chars.toArray stop = true := by
  have split : segments.flatMap nodes ++ tailNodes anchor =
      (segments.flatMap nodes ++ [.iterate .greedy 0 none (.one (.only '/'))]) ++
        [.assertion anchor] := by
    rw [List.append_assoc]
    rfl
  rw [Accepts, split]
  constructor
  · rintro ⟨_, way⟩
    obtain ⟨middle, taken, rfl, atEnd⟩ := (Node.reaches_join_append _ _).mp way
    exact ⟨middle, taken, atEnd⟩
  · rintro ⟨stop, taken, atEnd⟩
    exact ⟨stop, (Node.reaches_join_append _ _).mpr ⟨stop, taken, rfl, atEnd⟩⟩

/-- The nodes of a segment ask for no place but the start of the path. -/
theorem startOnly_nodes (segment : Segment) : ∀ node ∈ segment.nodes, node.StartOnly := by
  intro node member
  cases segment with
  | literal text =>
      rcases List.mem_cons.mp member with rfl | later
      · exact ⟨⟨rfl, trivial⟩, trivial⟩
      · obtain ⟨c, -, rfl⟩ := List.mem_map.mp later
        trivial
  | single =>
      simp only [nodes, List.mem_cons, List.not_mem_nil, or_false] at member
      rcases member with rfl | rfl
      · exact ⟨⟨rfl, trivial⟩, trivial⟩
      · trivial
  | double =>
      cases List.mem_singleton.mp member
      exact ⟨⟨⟨rfl, trivial⟩, trivial⟩, trivial⟩

/-- What is taken before the end asks for no place but the start of the path. -/
theorem startOnly_bodyNode (segments : List Segment) : (bodyNode segments).StartOnly := by
  refine Node.startOnly_join fun node member => ?_
  rcases List.mem_append.mp member with inSegments | slashes
  · obtain ⟨segment, -, inSegment⟩ := List.mem_flatMap.mp inSegments
    exact segment.startOnly_nodes node inSegment
  · cases List.mem_singleton.mp slashes
    trivial

/-- Up to the last line's end, a path that a line feed ends is accepted if all of it can be taken,
or all of what stands before the line feed. -/
theorem accepts_lineFeed {segments : List Segment} {position : Nat} :
    Accepts .lastLineEnd (front ++ ['\n']) segments position ↔
      Accepts .textEnd (front ++ ['\n']) segments position ∨
        Accepts .textEnd front segments position := by
  have before := Node.reaches_append (startOnly_bodyNode segments) ['\n'] position front.length
    (Nat.le_refl _)
  simp only [accepts_iff, lastLineEnd_holds_lineFeed, textEnd_holds _ _]
  constructor
  · rintro ⟨_, taken, rfl | rfl⟩
    · exact .inl ⟨_, taken, rfl⟩
    · exact .inr ⟨_, before.mp taken, rfl⟩
  · rintro (⟨_, taken, rfl⟩ | ⟨_, taken, rfl⟩)
    · exact ⟨_, taken, .inl rfl⟩
    · exact ⟨_, before.mpr taken, .inr rfl⟩

end Segment

namespace Glob

/-- A glob matches the paths that the nodes of its segments can take to the end. -/
theorem accepts_compile (source path : String) :
    Segment.Accepts .textEnd path.toList (compile source).segments 0 ↔
      (compile source).isMatch path = true := by
  have agrees := Segment.agrees_of_ends (Segment.textEnd_holds path.toList)
    (proper_compile source) 0 (Nat.zero_le _)
  rw [agrees, isMatch, pathSegments_eq_map]
  exact ⟨fun both => both.2, fun matched => ⟨.inl rfl, matched⟩⟩

/-- The pattern of a glob matches a path that a line feed ends if the glob matches the path, or what
stands before the line feed. -/
theorem matchesStart_lineFeed (source path : String) :
    ∃ pattern, (compile source).toPattern = .ok pattern ∧
      pattern.matchesStart (path ++ "\n") =
        ((compile source).isMatch (path ++ "\n") || (compile source).isMatch path) := by
  refine ⟨(compile source).pattern, (compile source).toPattern_eq_ok, ?_⟩
  have chars : (path ++ "\n").toList = path.toList ++ ['\n'] := by simp
  rw [Bool.eq_iff_iff, matchesStart_pattern, chars, Segment.accepts_lineFeed, ← chars,
    accepts_compile, accepts_compile, Bool.or_eq_true]

/-- A path that the pattern of a glob matches and the glob does not, as the line feed belongs to the
only segment of the path. -/
theorem matchesStart_unmatched_name :
    ∃ pattern, (compile "a").toPattern = .ok pattern ∧ pattern.matchesStart "a\n" = true ∧
      (compile "a").isMatch "a\n" = false :=
  ⟨(compile "a").pattern, (compile "a").toPattern_eq_ok, by decide +kernel, by decide +kernel⟩

end Glob

end Structex
