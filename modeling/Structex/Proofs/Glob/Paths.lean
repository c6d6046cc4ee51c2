import Structex.Glob

/-!
# The segments of a path

A path is cut at its slashes and the empty pieces are left out. So slashes at the front do not
matter, and the first segment is what comes behind them up to the next slash or the end.
-/

namespace Structex

/-- The segments of a path that is given by its characters. -/
def segmentChars (path : List Char) : List (List Char) :=
  (Text.splitChars '/' path).filter fun piece => !piece.isEmpty

/-- The segments of a path, as texts. -/
theorem pathSegments_eq_map (path : String) :
    pathSegments path = (segmentChars path.toList).map String.ofList := by
  rw [pathSegments, Text.split, segmentChars, List.filter_map]
  congr 2
  funext piece
  have same : (String.ofList piece).isEmpty = piece.isEmpty := by
    rw [Bool.eq_iff_iff, String.isEmpty_iff, ← String.toList_inj, String.toList_ofList,
      List.isEmpty_iff]
    rfl
  rw [Function.comp, same]

/-- A segment of a path is not empty and has no slash in it. -/
theorem proper_of_mem_pathSegments {path segment : String} (member : segment ∈ pathSegments path) :
    segment.toList ≠ [] ∧ ∀ c ∈ segment.toList, c ≠ '/' := by
  rw [pathSegments_eq_map] at member
  obtain ⟨piece, inPieces, rfl⟩ := List.mem_map.mp member
  obtain ⟨cut, nonempty⟩ := List.mem_filter.mp inPieces
  rw [String.toList_ofList]
  exact ⟨by simpa using nonempty, Text.ne_of_mem_splitChars cut⟩

/-- Slashes at the front of a path do not matter. -/
theorem segmentChars_slashes {slashes : List Char} (all : ∀ c ∈ slashes, c = '/')
    (rest : List Char) : segmentChars (slashes ++ rest) = segmentChars rest := by
  induction slashes with
  | nil => rfl
  | cons c slashes inductionHypothesis =>
      cases all c List.mem_cons_self
      exact inductionHypothesis fun d member => all d (List.mem_cons_of_mem _ member)

/-- A place in a path at which a segment can end: the end, or a slash. -/
def SegmentEnds (rest : List Char) : Prop :=
  rest = [] ∨ ∃ more, rest = '/' :: more

/-- A text without slashes that goes up to where a segment can end is the first segment. -/
theorem segmentChars_word {word rest : List Char} (nonempty : word ≠ [])
    (free : ∀ c ∈ word, c ≠ '/') (ends : SegmentEnds rest) :
    segmentChars (word ++ rest) = word :: segmentChars rest := by
  have kept : (!word.isEmpty) = true := by simpa using nonempty
  rcases ends with rfl | ⟨more, rfl⟩
  · rw [List.append_nil, segmentChars, Text.splitChars_of_forall_ne free]
    simp [kept, segmentChars, Text.splitChars]
  · rw [segmentChars, Text.splitChars_append free, List.filter_cons, if_pos kept]
    rfl

/-- A path begins with a text without slashes that goes up to where a segment can end. -/
theorem exists_word (path : List Char) :
    ∃ word rest, path = word ++ rest ∧ (∀ c ∈ word, c ≠ '/') ∧ SegmentEnds rest := by
  induction path with
  | nil => exact ⟨[], [], rfl, nofun, .inl rfl⟩
  | cons c path inductionHypothesis =>
      by_cases slash : c = '/'
      · exact ⟨[], c :: path, rfl, nofun, .inr ⟨path, slash ▸ rfl⟩⟩
      · obtain ⟨word, rest, rfl, free, ends⟩ := inductionHypothesis
        exact ⟨c :: word, rest, rfl, List.forall_mem_cons.mpr ⟨slash, free⟩, ends⟩

/-- A path is slashes alone, or begins with slashes and a segment. -/
theorem segmentChars_cases (path : List Char) :
    (∀ c ∈ path, c = '/') ∧ segmentChars path = [] ∨
      ∃ slashes word rest, path = slashes ++ (word ++ rest) ∧ (∀ c ∈ slashes, c = '/') ∧
        word ≠ [] ∧ (∀ c ∈ word, c ≠ '/') ∧ SegmentEnds rest ∧
        segmentChars path = word :: segmentChars rest := by
  induction path with
  | nil => exact .inl ⟨nofun, rfl⟩
  | cons c path inductionHypothesis =>
      by_cases slash : c = '/'
      · subst slash
        rcases inductionHypothesis with ⟨all, none⟩ | ⟨slashes, word, rest, rfl, all, found⟩
        · exact .inl ⟨List.forall_mem_cons.mpr ⟨rfl, all⟩, none⟩
        · exact .inr ⟨'/' :: slashes, word, rest, rfl, List.forall_mem_cons.mpr ⟨rfl, all⟩, found⟩
      · obtain ⟨word, rest, rfl, free, ends⟩ := exists_word path
        have nonempty : c :: word ≠ [] := List.cons_ne_nil c word
        have freeAll : ∀ d ∈ c :: word, d ≠ '/' := List.forall_mem_cons.mpr ⟨slash, free⟩
        exact .inr ⟨[], c :: word, rest, rfl, nofun, nonempty, freeAll, ends,
          segmentChars_word nonempty freeAll ends⟩

end Structex
