import Structex.Proofs.Glob.Paths
import Structex.Proofs.Glob.Rows
import Structex.Proofs.Glob.Source

/-!
# The pattern of a glob agrees with its segments

A glob is tested against the segments of a path, its pattern against the characters. Both accept
the same paths, as long as no line feed ends the path. The invariant is about offsets: the nodes
of some segments accept the path from an offset on exactly if a segment can begin there and the
segments match those that are left of the path.
-/

namespace Structex

open Regex

namespace Segment

variable {chars : List Char}

/-! ## What the nodes of a segment take -/

/-- A segment with the slashes before it stands between two offsets. Slashes may be missing only
at the start of the path. -/
def Takes (chars word : List Char) (start stop : Nat) : Prop :=
  ∃ slashes middle, (∀ c ∈ slashes, c = '/') ∧ Spells chars slashes start middle ∧
    (start = 0 ∨ slashes ≠ []) ∧ word ≠ [] ∧ (∀ c ∈ word, c ≠ '/') ∧
    Spells chars word middle stop

/-- The gap before a segment takes slashes, none at all only at the start of the path. -/
theorem reaches_gapNode {start stop : Nat} :
    gapNode.Reaches chars.toArray start stop ↔
      ∃ slashes, (∀ c ∈ slashes, c = '/') ∧ Spells chars slashes start stop ∧
        (start = 0 ∨ slashes ≠ []) := by
  have first : ∀ middle,
      ((Node.assertion .textStart).Reaches chars.toArray start middle ↔
        start = middle ∧ start = 0) := fun middle => by
    simp [Node.Reaches, Anchor.holds]
  rw [gapNode, Node.Reaches, Node.Reaches]
  simp only [first, Node.reaches_iterate_one, CharSet.accepts_only]
  constructor
  · rintro (⟨_, ⟨rfl, atStart⟩, slashes, -, all, spells⟩ | ⟨slashes, present, all, spells⟩)
    · exact ⟨slashes, all, spells, .inl atStart⟩
    · exact ⟨slashes, all, spells, .inr (List.length_pos_iff.mp present)⟩
  · rintro ⟨slashes, all, spells, atStart | present⟩
    · exact .inl ⟨start, ⟨rfl, atStart⟩, slashes, Nat.zero_le _, all, spells⟩
    · exact .inr ⟨slashes, List.length_pos_iff.mpr present, all, spells⟩

/-- Any segment takes a text without slashes. -/
theorem reaches_nameNode {start stop : Nat} :
    nameNode.Reaches chars.toArray start stop ↔
      ∃ word, word ≠ [] ∧ (∀ c ∈ word, c ≠ '/') ∧ Spells chars word start stop := by
  simp only [nameNode, Node.reaches_iterate_one, CharSet.accepts_allBut]
  constructor
  · rintro ⟨word, nonempty, free, spells⟩
    exact ⟨word, List.length_pos_iff.mp nonempty, free, spells⟩
  · rintro ⟨word, nonempty, free, spells⟩
    exact ⟨word, List.length_pos_iff.mpr nonempty, free, spells⟩

/-- A gap and any segment. -/
theorem reaches_gap_name {start stop : Nat} :
    (Node.seq gapNode nameNode).Reaches chars.toArray start stop ↔
      ∃ word, Takes chars word start stop := by
  simp only [Node.Reaches, reaches_gapNode, reaches_nameNode]
  constructor
  · rintro ⟨middle, ⟨slashes, all, before, gap⟩, word, nonempty, free, spells⟩
    exact ⟨word, slashes, middle, all, before, gap, nonempty, free, spells⟩
  · rintro ⟨word, slashes, middle, all, before, gap, nonempty, free, spells⟩
    exact ⟨middle, ⟨slashes, all, before, gap⟩, word, nonempty, free, spells⟩

/-- A segment ends behind its start and in the path. -/
theorem Takes.bounds {word : List Char} {start stop : Nat} (takes : Takes chars word start stop) :
    start < stop ∧ stop ≤ chars.length := by
  obtain ⟨slashes, middle, -, before, -, nonempty, -, spells⟩ := takes
  have positive := List.length_pos_iff.mpr nonempty
  have inside := spells.le_length nonempty
  have first := before.1
  have second := spells.1
  omega

/-! ## Where a segment can begin -/

/-- A segment can begin at the start of a path, and where one has ended. -/
def Begins (chars : List Char) (position : Nat) : Prop :=
  position = 0 ∨ SegmentEnds (chars.drop position)

/-- A segment that is taken up to where the next can begin is the next segment of the path. -/
theorem Takes.segmentChars_eq {word : List Char} {start stop : Nat}
    (takes : Takes chars word start stop) (begins : Begins chars stop) :
    Begins chars start ∧
      segmentChars (chars.drop start) = word :: segmentChars (chars.drop stop) := by
  obtain ⟨slashes, middle, all, before, gap, nonempty, free, spells⟩ := takes
  have positive := List.length_pos_iff.mpr nonempty
  have ends : SegmentEnds (chars.drop stop) := by
    rcases begins with atStart | ends
    · have first := before.1
      have second := spells.1
      omega
    · exact ends
  constructor
  · rcases gap with atStart | present
    · exact .inl atStart
    · obtain ⟨c, slashes, rfl⟩ := List.exists_cons_of_ne_nil present
      cases all c List.mem_cons_self
      exact .inr (.inr ⟨_, before.2⟩)
  · rw [before.2, spells.2, segmentChars_slashes all, segmentChars_word nonempty free ends]

/-- Where a segment can begin, the next segment of the path can be taken. -/
theorem exists_takes {word : List Char} {others : List (List Char)} {start : Nat}
    (begins : Begins chars start)
    (found : segmentChars (chars.drop start) = word :: others) :
    ∃ stop, Takes chars word start stop ∧ Begins chars stop ∧
      segmentChars (chars.drop stop) = others := by
  rcases segmentChars_cases (chars.drop start) with
    ⟨-, nothing⟩ | ⟨slashes, other, rest, split, all, nonempty, free, ends, first⟩
  · rw [nothing] at found
    cases found
  · rw [first] at found
    cases found
    have behind : chars.drop (start + slashes.length) = word ++ rest := by
      rw [← List.drop_drop, split, List.drop_left]
    have after : chars.drop (start + slashes.length + word.length) = rest := by
      rw [← List.drop_drop, behind, List.drop_left]
    have gap : start = 0 ∨ slashes ≠ [] := by
      rcases begins with atStart | atEnd | ⟨more, slash⟩
      · exact .inl atStart
      · rw [atEnd] at split
        have nothing := List.append_eq_nil_iff.mp (List.append_eq_nil_iff.mp split.symm).2
        exact absurd nothing.1 nonempty
      · refine .inr fun missing => ?_
        obtain ⟨c, word, rfl⟩ := List.exists_cons_of_ne_nil nonempty
        rw [missing, slash] at split
        cases split
        exact free _ List.mem_cons_self rfl
    refine ⟨start + slashes.length + word.length, ?_, ?_, ?_⟩
    · exact ⟨slashes, start + slashes.length, all, ⟨rfl, by rw [behind, split]⟩, gap, nonempty,
        free, rfl, by rw [behind, after]⟩
    · exact .inr (after ▸ ends)
    · rw [after]

/-! ## What the nodes of several segments accept -/

/-- Any number of slashes up to where the path is to end. -/
def tailNodes (anchor : Anchor) : List Node :=
  [.iterate .greedy 0 none (.one (.only '/')), .assertion anchor]

variable {anchor : Anchor}

/-- The nodes of segments accept the path from an offset on, up to what counts as its end. -/
def Accepts (anchor : Anchor) (chars : List Char) (segments : List Segment) (position : Nat) :
    Prop :=
  ∃ stop,
    (Node.join (segments.flatMap nodes ++ tailNodes anchor)).Reaches chars.toArray position stop

/-- The first segment takes its part of the path. -/
theorem accepts_cons {segment : Segment} {rest : List Segment} {position : Nat} :
    Accepts anchor chars (segment :: rest) position ↔
      ∃ middle, (Node.join segment.nodes).Reaches chars.toArray position middle ∧
        Accepts anchor chars rest middle := by
  simp only [Accepts, List.flatMap_cons, List.append_assoc, Node.reaches_join_append]
  constructor
  · rintro ⟨stop, middle, way, further⟩
    exact ⟨middle, way, stop, further⟩
  · rintro ⟨middle, way, stop, further⟩
    exact ⟨stop, middle, way, further⟩

/-- A single wildcard takes any segment. -/
theorem accepts_single {rest : List Segment} {position : Nat} :
    Accepts anchor chars (.single :: rest) position ↔
      ∃ word middle, Takes chars word position middle ∧ Accepts anchor chars rest middle := by
  have single : ∀ middle, (Node.join (nodes .single)).Reaches chars.toArray position middle ↔
      ∃ word, Takes chars word position middle := fun middle => reaches_gap_name
  simp only [accepts_cons, single]
  constructor
  · rintro ⟨middle, ⟨word, takes⟩, further⟩
    exact ⟨word, middle, takes, further⟩
  · rintro ⟨word, middle, takes, further⟩
    exact ⟨middle, ⟨word, takes⟩, further⟩

/-- A literal takes its own text. -/
theorem accepts_literal {text : String} (nonempty : text.toList ≠ [])
    (free : ∀ c ∈ text.toList, c ≠ '/') {rest : List Segment} {position : Nat} :
    Accepts anchor chars (.literal text :: rest) position ↔
      ∃ middle, Takes chars text.toList position middle ∧ Accepts anchor chars rest middle := by
  have literal : ∀ middle, (Node.join (nodes (.literal text))).Reaches chars.toArray position
      middle ↔ Takes chars text.toList position middle := by
    intro middle
    rw [nodes, Node.reaches_join_cons]
    simp only [reaches_gapNode, Node.reaches_word]
    constructor
    · rintro ⟨between, ⟨slashes, all, before, gap⟩, spells⟩
      exact ⟨slashes, between, all, before, gap, nonempty, free, spells⟩
    · rintro ⟨slashes, between, all, before, gap, -, -, spells⟩
      exact ⟨between, ⟨slashes, all, before, gap⟩, spells⟩
  simp only [accepts_cons, literal]

/-- A double wildcard takes any number of segments. -/
theorem accepts_double {rest : List Segment} {position : Nat} :
    Accepts anchor chars (.double :: rest) position ↔
      ∃ count middle,
        Rounds (fun start stop => ∃ word, Takes chars word start stop) count position middle ∧
          Accepts anchor chars rest middle := by
  have rounds : (Node.seq gapNode nameNode).Reaches chars.toArray =
      fun start stop => ∃ word, Takes chars word start stop := by
    funext start stop
    exact propext reaches_gap_name
  have double : ∀ middle, (Node.join (nodes .double)).Reaches chars.toArray position middle ↔
      ∃ count, Rounds (fun start stop => ∃ word, Takes chars word start stop) count
        position middle := by
    intro middle
    rw [← rounds]
    constructor
    · rintro ⟨count, -, ways⟩
      exact ⟨count, ways⟩
    · rintro ⟨count, ways⟩
      exact ⟨count, Nat.zero_le _, ways⟩
  simp only [accepts_cons, double]
  constructor
  · rintro ⟨middle, ⟨count, ways⟩, further⟩
    exact ⟨count, middle, ways, further⟩
  · rintro ⟨count, middle, ways, further⟩
    exact ⟨middle, ⟨count, ways⟩, further⟩

/-- Only the end of a text counts as its end. -/
def EndsOnce (anchor : Anchor) (chars : List Char) : Prop :=
  ∀ position, anchor.holds chars.toArray position = true ↔ position = chars.length

/-- The end of a text that no line feed ends is the only place that counts as its end. -/
theorem lastLineEnd_holds (noLineFeed : chars.getLast? ≠ some '\n') :
    EndsOnce .lastLineEnd chars := by
  intro position
  have noFeed : position + 1 = chars.length → chars[position]? ≠ some '\n' := by
    intro last feed
    have index : chars.length - 1 = position := by omega
    rw [List.getLast?_eq_getElem?, index] at noLineFeed
    exact noLineFeed feed
  simp only [Anchor.holds, lineFeedAt, List.size_toArray, List.getElem?_toArray,
    Bool.or_eq_true, Bool.and_eq_true, beq_iff_eq]
  constructor
  · rintro (atEnd | ⟨last, feed⟩)
    · exact atEnd
    · exact absurd feed (noFeed last)
  · exact .inl

/-- Where no segments are left, slashes up to the end are accepted. -/
theorem accepts_nil (ends : EndsOnce anchor chars) {position : Nat}
    (within : position ≤ chars.length) :
    Accepts anchor chars [] position ↔ ∀ c ∈ chars.drop position, c = '/' := by
  have tail : ∀ stop, (Node.join (tailNodes anchor)).Reaches chars.toArray position stop ↔
      ∃ slashes, (∀ c ∈ slashes, c = '/') ∧ Spells chars slashes position stop ∧
        stop = chars.length := by
    intro stop
    rw [tailNodes, Node.reaches_join_cons]
    simp only [Node.reaches_iterate_one, CharSet.accepts_only]
    constructor
    · rintro ⟨_, ⟨slashes, -, all, spells⟩, rfl, atEnd⟩
      exact ⟨slashes, all, spells, (ends _).mp atEnd⟩
    · rintro ⟨slashes, all, spells, atEnd⟩
      exact ⟨stop, ⟨slashes, Nat.zero_le _, all, spells⟩, rfl,
        (ends _).mpr atEnd⟩
  simp only [Accepts, List.flatMap_nil, List.nil_append, tail]
  constructor
  · rintro ⟨_, slashes, all, spells, rfl⟩
    have whole := spells.2
    rw [List.drop_length, List.append_nil] at whole
    exact whole ▸ all
  · intro all
    refine ⟨chars.length, chars.drop position, all, ⟨?_, ?_⟩, rfl⟩
    · rw [List.length_drop]
      omega
    · rw [List.drop_length, List.append_nil]

/-! ## The agreement -/

/-- A segment as a glob can have it: a literal is not empty and has no slash. -/
def Proper : Segment → Prop
  | .literal text => text.toList ≠ [] ∧ ∀ c ∈ text.toList, c ≠ '/'
  | _ => True

/-- Whether segments match what is left of a path from an offset on. -/
def MatchRest (chars : List Char) (segments : List Segment) (position : Nat) : Prop :=
  matchAll segments ((segmentChars (chars.drop position)).map String.ofList) = true

/-- Where a path begins with a segment, the rest is matched behind it. -/
theorem matchRest_of_cons {segment : Segment} {rest : List Segment} {position : Nat}
    (matched : MatchRest chars (segment :: rest) position) (fixed : segment ≠ .double) :
    ∃ word others, segmentChars (chars.drop position) = word :: others := by
  cases found : segmentChars (chars.drop position) with
  | nil =>
      have other : (segment == .double) = false := beq_eq_false_iff_ne.mpr fixed
      rw [MatchRest, found, List.map_nil, matchAll_of_end, other] at matched
      cases matched
  | cons word others => exact ⟨word, others, rfl⟩

/-- What the nodes of segments accept tells how the segments match. -/
def Agrees (anchor : Anchor) (chars : List Char) (segments : List Segment) : Prop :=
  ∀ position, position ≤ chars.length →
    (Accepts anchor chars segments position ↔
      Begins chars position ∧ MatchRest chars segments position)

/-- Slashes up to the end agree with no segments. -/
theorem agrees_nil (ends : EndsOnce anchor chars) : Agrees anchor chars [] := by
  intro position within
  rw [accepts_nil ends within, MatchRest, matchAll_nil, List.isEmpty_iff,
    List.map_eq_nil_iff]
  constructor
  · intro all
    have nothing := segmentChars_slashes all []
    rw [List.append_nil] at nothing
    refine ⟨.inr ?_, nothing⟩
    cases rest : chars.drop position with
    | nil => exact .inl rfl
    | cons c more =>
        rw [rest] at all
        exact .inr ⟨more, by rw [all c List.mem_cons_self]⟩
  · rintro ⟨-, nothing⟩
    rcases segmentChars_cases (chars.drop position) with
      ⟨all, -⟩ | ⟨_, _, _, -, -, -, -, -, found⟩
    · exact all
    · rw [nothing] at found
      cases found

/-- A single wildcard agrees if the rest does. -/
theorem Agrees.single {rest : List Segment} (agrees : Agrees anchor chars rest) :
    Agrees anchor chars (.single :: rest) := by
  intro position _
  rw [accepts_single]
  constructor
  · rintro ⟨word, middle, takes, further⟩
    obtain ⟨beginsBehind, matched⟩ := (agrees _ takes.bounds.2).mp further
    obtain ⟨begins, found⟩ := takes.segmentChars_eq beginsBehind
    refine ⟨begins, ?_⟩
    rw [MatchRest, found, List.map_cons, matchAll_single]
    exact matched
  · rintro ⟨begins, matched⟩
    obtain ⟨word, others, found⟩ := matchRest_of_cons matched (by decide)
    obtain ⟨middle, takes, beginsBehind, left⟩ := exists_takes begins found
    rw [MatchRest, found, List.map_cons, matchAll_single, ← left] at matched
    exact ⟨word, middle, takes, (agrees _ takes.bounds.2).mpr ⟨beginsBehind, matched⟩⟩

/-- A literal agrees if the rest does. -/
theorem Agrees.literal {text : String} (nonempty : text.toList ≠ [])
    (free : ∀ c ∈ text.toList, c ≠ '/') {rest : List Segment}
    (agrees : Agrees anchor chars rest) :
    Agrees anchor chars (.literal text :: rest) := by
  intro position _
  rw [accepts_literal nonempty free]
  constructor
  · rintro ⟨middle, takes, further⟩
    obtain ⟨beginsBehind, matched⟩ := (agrees _ takes.bounds.2).mp further
    obtain ⟨begins, found⟩ := takes.segmentChars_eq beginsBehind
    refine ⟨begins, ?_⟩
    rw [MatchRest, found, List.map_cons, matchAll_literal, String.ofList_toList, beq_self_eq_true,
      Bool.true_and]
    exact matched
  · rintro ⟨begins, matched⟩
    obtain ⟨word, others, found⟩ := matchRest_of_cons matched nofun
    obtain ⟨middle, takes, beginsBehind, left⟩ := exists_takes begins found
    rw [MatchRest, found, List.map_cons, matchAll_literal, Bool.and_eq_true, beq_iff_eq,
      ← left] at matched
    obtain ⟨same, matchedBehind⟩ := matched
    have spelled : text.toList = word := by rw [← same, String.toList_ofList]
    exact ⟨middle, spelled ▸ takes,
      (agrees _ takes.bounds.2).mpr ⟨beginsBehind, matchedBehind⟩⟩

/-- A double wildcard agrees if the rest does. -/
theorem Agrees.double {rest : List Segment} (agrees : Agrees anchor chars rest) :
    Agrees anchor chars (.double :: rest) := by
  intro position within
  rw [accepts_double]
  constructor
  · rintro ⟨count, middle, rounds, further⟩
    induction count generalizing position with
    | zero =>
        cases rounds
        obtain ⟨begins, matched⟩ := (agrees _ within).mp further
        exact ⟨begins, matchAll_double_of_matchAll matched⟩
    | succ count inductionHypothesis =>
        obtain ⟨between, ⟨word, takes⟩, ways⟩ := rounds
        obtain ⟨beginsBehind, matched⟩ := inductionHypothesis _ takes.bounds.2 ways
        obtain ⟨begins, found⟩ := takes.segmentChars_eq beginsBehind
        refine ⟨begins, ?_⟩
        rw [MatchRest, found, List.map_cons, matchAll_double, Bool.or_eq_true]
        exact .inr matched
  · rintro ⟨begins, matched⟩
    generalize found : segmentChars (chars.drop position) = parts
    induction parts generalizing position with
    | nil =>
        rw [MatchRest, found, List.map_nil, matchAll_of_end, Bool.and_eq_true] at matched
        have matchedHere : MatchRest chars rest position := by
          rw [MatchRest, found]
          exact matched.2
        exact ⟨0, position, rfl, (agrees _ within).mpr ⟨begins, matchedHere⟩⟩
    | cons word others inductionHypothesis =>
        rw [MatchRest, found, List.map_cons, matchAll_double, Bool.or_eq_true] at matched
        rcases matched with here | behind
        · have matchedHere : MatchRest chars rest position := by
            rw [MatchRest, found]
            exact here
          exact ⟨0, position, rfl, (agrees _ within).mpr ⟨begins, matchedHere⟩⟩
        · obtain ⟨middle, takes, beginsBehind, left⟩ := exists_takes begins found
          rw [← left] at behind
          obtain ⟨count, last, ways, further⟩ :=
            inductionHypothesis _ takes.bounds.2 beginsBehind behind left
          exact ⟨count + 1, last, ⟨middle, ⟨word, takes⟩, ways⟩, further⟩

/-- The nodes of segments agree with the segments, if only the end of the path counts as its
end. -/
theorem agrees_of_ends (ends : EndsOnce anchor chars) {segments : List Segment}
    (proper : ∀ segment ∈ segments, segment.Proper) : Agrees anchor chars segments := by
  induction segments with
  | nil => exact agrees_nil ends
  | cons segment rest inductionHypothesis =>
      have agrees : Agrees anchor chars rest := inductionHypothesis fun other member =>
        proper other (List.mem_cons_of_mem segment member)
      cases segment with
      | literal text =>
          obtain ⟨nonempty, free⟩ := proper _ List.mem_cons_self
          exact agrees.literal nonempty free
      | single => exact agrees.single
      | double => exact agrees.double

/-- So they do up to the last line's end, on every path that no line feed ends. -/
theorem agrees_of_proper (noLineFeed : chars.getLast? ≠ some '\n') {segments : List Segment}
    (proper : ∀ segment ∈ segments, segment.Proper) : Agrees .lastLineEnd chars segments :=
  agrees_of_ends (lastLineEnd_holds noLineFeed) proper

/-- The nodes of a segment are plain. -/
theorem plain_nodes (chars : List Char) (segment : Segment) :
    ∀ node ∈ segment.nodes, node.Plain chars.toArray := by
  have slash := Node.forward_one chars (.only '/')
  have other := Node.forward_one chars (.allBut '/')
  have gap : gapNode.Plain chars.toArray :=
    ⟨⟨trivial, rfl, rfl, trivial, slash⟩, rfl, rfl, trivial, slash⟩
  have name : nameNode.Plain chars.toArray := ⟨rfl, rfl, trivial, other⟩
  intro node member
  cases segment with
  | literal text =>
      rcases List.mem_cons.mp member with rfl | later
      · exact gap
      · obtain ⟨c, -, rfl⟩ := List.mem_map.mp later
        trivial
  | single =>
      simp only [nodes, List.mem_cons, List.not_mem_nil, or_false] at member
      rcases member with rfl | rfl
      · exact gap
      · exact name
  | double =>
      cases List.mem_singleton.mp member
      refine ⟨rfl, rfl, ⟨gap, name⟩, fun start stop way => ?_⟩
      obtain ⟨word, takes⟩ := reaches_gap_name.mp way
      exact takes.bounds

end Segment

namespace Glob

/-- The tree of a glob's pattern is plain. -/
theorem plain_node (glob : Glob) (chars : List Char) : glob.node.Plain chars.toArray := by
  have slash := Node.forward_one chars (.only '/')
  refine Node.plain_join fun node member => ?_
  rcases List.mem_cons.mp member with rfl | later
  · trivial
  · rcases List.mem_append.mp later with inSegments | atEnd
    · obtain ⟨segment, -, inSegment⟩ := List.mem_flatMap.mp inSegments
      exact segment.plain_nodes chars node inSegment
    · simp only [endNodes, List.mem_cons, List.not_mem_nil, or_false] at atEnd
      rcases atEnd with rfl | rfl
      · exact ⟨rfl, rfl, trivial, slash⟩
      · trivial

/-- The segments of a glob are proper. -/
theorem proper_compile (source : String) :
    ∀ segment ∈ (compile source).segments, segment.Proper := by
  intro segment member
  obtain ⟨text, inSource, rfl⟩ := List.mem_map.mp member
  rw [Segment.ofText]
  split
  · trivial
  · split
    · trivial
    · exact proper_of_mem_pathSegments inSource

/-- The pattern of a glob matches the paths that the nodes of its segments accept. -/
theorem matchesStart_pattern (glob : Glob) (path : String) :
    glob.pattern.matchesStart path = true ↔
      Segment.Accepts .lastLineEnd path.toList glob.segments 0 := by
  have start : ∀ middle,
      (Node.assertion .textStart).Reaches path.toList.toArray 0 middle ↔ 0 = middle :=
    fun middle => ⟨fun way => way.1, fun same => ⟨same, rfl⟩⟩
  have plain : glob.pattern.node.Plain path.toList.toArray := glob.plain_node path.toList
  rw [Pattern.matchesStart, Pattern.matchAt_isSome_iff plain, Segment.Accepts]
  simp only [pattern, node, Node.reaches_join_cons, start]
  constructor
  · rintro ⟨stop, _, rfl, way⟩
    exact ⟨stop, way⟩
  · rintro ⟨stop, way⟩
    exact ⟨stop, 0, rfl, way⟩

/-- The pattern of a glob is always accepted, and it matches the paths that the glob matches, of
those that no line feed ends. -/
theorem matchesStart_eq_isMatch (source path : String)
    (noLineFeed : path.toList.getLast? ≠ some '\n') :
    ∃ pattern, (compile source).toPattern = .ok pattern ∧
      pattern.matchesStart path = (compile source).isMatch path := by
  refine ⟨(compile source).pattern, (compile source).toPattern_eq_ok, ?_⟩
  have agrees := Segment.agrees_of_proper noLineFeed (proper_compile source) 0 (Nat.zero_le _)
  rw [Bool.eq_iff_iff, matchesStart_pattern, agrees, isMatch, pathSegments_eq_map]
  exact ⟨fun both => both.2, fun matched => ⟨.inl rfl, matched⟩⟩

/-- Redundant slashes, signs with a meaning of their own, and a double wildcard that takes two
segments. -/
theorem matchesStart_eq_isMatch_of_users :
    "//users/x\n/y/a+b/".toList.getLast? ≠ some '\n' ∧
      ∃ pattern, (compile "users//**/a+b").toPattern = .ok pattern ∧
        pattern.matchesStart "//users/x\n/y/a+b/" = true := by
  have noLineFeed : "//users/x\n/y/a+b/".toList.getLast? ≠ some '\n' := by decide
  obtain ⟨pattern, accepted, agrees⟩ :=
    matchesStart_eq_isMatch "users//**/a+b" "//users/x\n/y/a+b/" noLineFeed
  exact ⟨noLineFeed, pattern, accepted, agrees.trans (by decide +kernel)⟩

end Glob

end Structex
